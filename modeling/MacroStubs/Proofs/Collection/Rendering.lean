import MacroStubs.Proofs.Collection.Gathering
import MacroStubs.Proofs.Stub.Blocks

/-! # Rendering

What a rendering gives where all modules have been imported: the header and one block for each class that
is named, in the order of the first identifiers. A block depends on its class alone, so the order of the
identifiers decides the order of the blocks and nothing else.
-/

namespace MacroStubs

variable {w : World} {σ τ : State} {ids : List String} {text : String}

namespace Generator

/-- What a rendering comes to in a state: what came of writing the stub, and its text so far. -/
def rendered (w : World) (σ : State) (ids : List String) :
    Except Failure (Except Failure Unit × String) :=
  (gathered w σ ids).map fun found =>
    ((ClassMacros.write w σ found).1, (ClassMacros.write w σ found).2.text)

theorem isQuiet_emit (found : List ClassMacros) : (emit w (Reach.of w) found).IsQuiet σ :=
  closed_emit (.quiet σ) found

theorem isQuiet_render (hi : Import.IsDone w σ) :
    (render w (Reach.of w) (importModule w) ids).IsQuiet σ :=
  closed_render (fun _ _ m _ => (Import.isFirm_importModule (hi.isSettled m)).quiet.attempt) (.quiet σ)

/-- Where all modules have been imported, a rendering depends on nothing else of the host. -/
theorem render_ends (hi : Import.IsDone w σ) :
    (render w (Reach.of w) (importModule w) ids).Ends σ fun e =>
      e.map (·.2) = rendered w σ ids := by
  rw [rendered]
  refine (collected_gathers hi).bind (isQuiet_collected hi) ?_ ?_
  · rintro ⟨p, found⟩ hfound
    have hemit : (emit w (Reach.of w) found).Ends σ
        (· = .ok ((ClassMacros.write w σ found).1, (ClassMacros.write w σ found).2.text)) := by
      intro host
      rw [emit_run, ClassMacros.write_withHost]
    refine .bind_ok hemit (isQuiet_emit found) (.pure ?_)
    rw [← hfound]
    rfl
  · intro failure hfailure
    rw [← hfailure]
    rfl

theorem gathered_eq_ok {found : List ClassMacros} : gathered w σ ids = .ok found ↔
    (∀ id ∈ ids, ∃ answer, Resolution.answer w σ id = .ok answer) ∧
      ∃ parts, List.Forall₂ (fun c part => Extraction.extracted w σ (.cls c) = .ok part)
        (Resolution.named w σ ids) parts ∧ found = parts.flatMap Option.toList := by
  simp only [gathered, bind_eq_ok, pure_eq_ok, ← exists_mapM_eq_ok]
  constructor
  · rintro ⟨answers, ha, parts, hp, rfl⟩
    rw [mapM_eq_ok, List.forall₂_map_left_iff] at hp
    exact ⟨⟨answers, ha⟩, parts, hp, rfl⟩
  · rintro ⟨⟨answers, ha⟩, parts, hp, rfl⟩
    refine ⟨answers, ha, parts, ?_, rfl⟩
    rw [mapM_eq_ok, List.forall₂_map_left_iff]
    exact hp

/-- The block of a class, nothing if no macros are extracted from it. -/
def block (w : World) (σ : State) (c : ClassId) : String :=
  match Extraction.extracted w σ (.cls c) with
  | .ok (some m) => m.block w σ
  | _ => ""

/-- A class from which something is extracted, if only nothing, and what is extracted can be told. -/
def Tells (w : World) (σ : State) (c : ClassId) : Prop :=
  ∃ part, Extraction.extracted w σ (.cls c) = .ok part ∧ ∀ m, part = some m → m.IsTold w σ

theorem join_blocks {classes : List ClassId} {parts : List (Option ClassMacros)}
    (h : List.Forall₂ (fun c part => Extraction.extracted w σ (.cls c) = .ok part) classes parts) :
    String.join ((parts.flatMap Option.toList).map (·.block w σ)) =
      String.join (classes.map (block w σ)) := by
  induction h with
  | nil => rfl
  | @cons c part classes parts hc hrest ih =>
    rw [List.flatMap_cons, List.map_append, String.join_append, ih, List.map_cons, String.join_cons,
      block, hc]
    cases part <;> simp

theorem forall_isTold_iff {classes : List ClassId} {parts : List (Option ClassMacros)}
    (h : List.Forall₂ (fun c part => Extraction.extracted w σ (.cls c) = .ok part) classes parts) :
    (∀ m ∈ parts.flatMap Option.toList, m.IsTold w σ) ↔ ∀ c ∈ classes, Tells w σ c := by
  induction h with
  | nil => simp
  | @cons c part classes parts hc hrest ih =>
    have hpart : (∀ m ∈ part.toList, m.IsTold w σ) ↔ Tells w σ c := by
      rw [Tells, hc]
      simp
    rw [List.flatMap_cons, List.forall_mem_append, List.forall_mem_cons, hpart, ih]

/-- A rendering succeeds if each identifier can be resolved and each class tells its macros, and then
its text has one block for each class, in the order of the first identifiers. -/
theorem rendered_eq_ok : rendered w σ ids = .ok (.ok (), text) ↔
    (∀ id ∈ ids, ∃ answer, Resolution.answer w σ id = .ok answer) ∧
      (∀ c ∈ Resolution.named w σ ids, Tells w σ c) ∧
      text = ClassMacros.sheetText ((Resolution.named w σ ids).map (block w σ)) := by
  rw [rendered, map_eq_ok]
  constructor
  · rintro ⟨found, hfound, hwrite⟩
    obtain ⟨hok, rfl⟩ := Prod.mk.inj hwrite
    obtain ⟨hanswers, parts, hparts, rfl⟩ := gathered_eq_ok.mp hfound
    have htold := ClassMacros.write_isOk_iff.mp hok
    refine ⟨hanswers, (forall_isTold_iff hparts).mp htold, ?_⟩
    rw [ClassMacros.text_write htold, ClassMacros.sheetText, join_blocks hparts]
    rfl
  · rintro ⟨hanswers, htells, rfl⟩
    obtain ⟨parts, hparts⟩ := exists_mapM_eq_ok.mpr fun c hc =>
      (htells c hc).imp fun part hpart => hpart.1
    have hparts := mapM_eq_ok.mp hparts
    have htold := (forall_isTold_iff hparts).mpr htells
    refine ⟨_, gathered_eq_ok.mpr ⟨hanswers, parts, hparts, rfl⟩, ?_⟩
    rw [ClassMacros.write_isOk_iff.mpr htold, ClassMacros.text_write htold, ClassMacros.sheetText,
      join_blocks hparts]
    rfl

/-- Rendering gives this text in every state that differs from this one in the host at most, and leaves
it such a state. -/
def Renders (w : World) (σ : State) (ids : List String) (text : String) : Prop :=
  ∀ τ, σ.AgreesWith τ → ∃ p τ', (render w (Reach.of w) (importModule w) ids).run τ =
    (.ok (p, .ok (), text), τ') ∧ σ.AgreesWith τ'

theorem renders_of_rendered (hi : Import.IsDone w σ) (h : rendered w σ ids = .ok (.ok (), text)) :
    Renders w σ ids text := by
  rintro _ ⟨host, rfl⟩
  have hgives := @render_ends w σ ids hi host
  obtain ⟨host', hs⟩ := @isQuiet_render w σ ids hi host
  generalize (render w (Reach.of w) (importModule w) ids).run { σ with host } = outcome at hgives hs ⊢
  obtain ⟨result, τ⟩ := outcome
  obtain rfl : τ = { σ with host := host' } := hs
  rw [h] at hgives
  obtain ⟨⟨p, _⟩, rfl, rfl⟩ := map_eq_ok.mp hgives
  exact ⟨p, _, rfl, host', rfl⟩

end Generator

/-- Further occurrences of what a list has already are dropped. -/
theorem eraseDups_append_cons_of_mem {α : Type} [BEq α] [LawfulBEq α] {a : α} {xs : List α}
    (h : a ∈ xs) (ys : List α) : (xs ++ a :: ys).eraseDups = (xs ++ ys).eraseDups := by
  rw [List.eraseDups_append, List.eraseDups_append, List.cons_removeAll,
    List.contains_iff_mem.mpr h]
  rfl

theorem eraseDups_filter {α : Type} [BEq α] [LawfulBEq α] (p : α → Bool) (xs : List α) :
    (xs.filter p).eraseDups = xs.eraseDups.filter p := by
  match xs with
  | [] => rfl
  | x :: rest =>
    have ih := eraseDups_filter p (rest.filter fun y => !y == x)
    rw [List.eraseDups_cons]
    by_cases hp : p x = true
    · rw [List.filter_cons_of_pos hp, List.eraseDups_cons, List.filter_cons_of_pos hp, ← ih,
        List.filter_filter, List.filter_filter]
      simp only [Bool.and_comm]
    · have hrest : (rest.filter fun y => !y == x).filter p = rest.filter p := by
        rw [List.filter_filter]
        refine List.filter_congr fun y _ => ?_
        by_cases hy : y = x
        · simp [hy, hp]
        · simp [hy]
      rw [List.filter_cons_of_neg hp, List.filter_cons_of_neg hp, ← ih, hrest]
termination_by xs.length
decreasing_by exact Nat.lt_succ_of_le (List.length_filter_le _ _)

namespace Resolution

variable {before after : List String} {id : String} {c : ClassId}

theorem mem_named : c ∈ named w σ ids ↔ ∃ id ∈ ids, class? w σ id = some c := by
  rw [named, List.mem_eraseDups, List.mem_filterMap]

theorem named_insert_of_none (h : class? w σ id = none) :
    named w σ (before ++ id :: after) = named w σ (before ++ after) := by
  rw [named, named, List.filterMap_append, List.filterMap_append, List.filterMap_cons_none h]

theorem named_insert_of_known (h : class? w σ id = some c)
    (hk : ∃ first ∈ before, class? w σ first = some c) :
    named w σ (before ++ id :: after) = named w σ (before ++ after) := by
  rw [named, named, List.filterMap_append, List.filterMap_append, List.filterMap_cons_some h]
  exact eraseDups_append_cons_of_mem (List.mem_filterMap.mpr hk) _

/-- An inserted identifier changes nothing but the place of the class that it names. -/
theorem filter_named_insert (h : class? w σ id = some c) :
    (named w σ (before ++ id :: after)).filter (· != c) =
      (named w σ (before ++ after)).filter (· != c) := by
  rw [named, named, ← eraseDups_filter, ← eraseDups_filter, List.filterMap_append,
    List.filterMap_append, List.filterMap_cons_some h, List.filter_append, List.filter_append,
    List.filter_cons_of_neg (by simp)]

end Resolution

namespace Generator

variable {before after : List String} {id : String} {c : ClassId}

/-- An identifier that adds nothing behind others: it names nothing, or a class from which no macros are
extracted, without a failure, or a class that one of the others names. -/
def AddsNothing (w : World) (σ : State) (before : List String) (id : String) : Prop :=
  Resolution.answer w σ id = .ok none ∨
    ∃ c, Resolution.answer w σ id = .ok (some (.cls c)) ∧
      ((Extraction.held? σ (.cls c) = none ∧ ∃ part, Extraction.extracted w σ (.cls c) = .ok part) ∨
        ∃ first ∈ before, Resolution.answer w σ first = .ok (some (.cls c)))

/-- A class without a block may be left out. -/
theorem join_blocks_filter {classes : List ClassId} (hc : block w σ c = "") :
    String.join ((classes.filter (· != c)).map (block w σ)) =
      String.join (classes.map (block w σ)) := by
  induction classes with
  | nil => rfl
  | cons k rest ih =>
    by_cases hk : k = c
    · rw [hk, List.filter_cons_of_neg (by simp), ih, List.map_cons, String.join_cons, hc,
        String.empty_append]
    · rw [List.filter_cons_of_pos (by simpa using hk), List.map_cons, List.map_cons,
        String.join_cons, String.join_cons, ih]

theorem extracted_of_held?_eq_none {part : Option ClassMacros}
    (hh : Extraction.held? σ (.cls c) = none)
    (he : Extraction.extracted w σ (.cls c) = .ok part) : part = none := by
  have hgives := Extraction.extract_gives σ.host part he
  rw [hh] at hgives
  simpa using hgives

/-- The text of a rendering stays the same with an identifier that adds nothing. -/
theorem rendered_insert (h : rendered w σ (before ++ after) = .ok (.ok (), text))
    (ha : AddsNothing w σ before id) :
    rendered w σ (before ++ id :: after) = .ok (.ok (), text) := by
  obtain ⟨hanswers, htells, rfl⟩ := rendered_eq_ok.mp h
  rw [List.forall_mem_append] at hanswers
  have hall {answer : Option Value} (hid : Resolution.answer w σ id = .ok answer) :
      ∀ other ∈ before ++ id :: after, ∃ answer, Resolution.answer w σ other = .ok answer :=
    List.forall_mem_append.mpr
      ⟨hanswers.1, List.forall_mem_cons.mpr ⟨⟨answer, hid⟩, hanswers.2⟩⟩
  rcases ha with hid | ⟨c, hid, hclass⟩
  · refine rendered_eq_ok.mpr ⟨hall hid, ?_⟩
    rw [Resolution.named_insert_of_none (Resolution.class?_of_none hid)]
    exact ⟨htells, rfl⟩
  · have hc := Resolution.class?_of_answer hid
    refine rendered_eq_ok.mpr ⟨hall hid, ?_⟩
    rcases hclass with ⟨hheld, part, hpart⟩ | ⟨first, hfirst, hknown⟩
    · obtain rfl := extracted_of_held?_eq_none hheld hpart
      have hblock : block w σ c = "" := by rw [block, hpart]
      have hfilter : (Resolution.named w σ (before ++ id :: after)).filter (· != c) =
          (Resolution.named w σ (before ++ after)).filter (· != c) :=
        Resolution.filter_named_insert hc
      refine ⟨fun k hk => ?_, ?_⟩
      · by_cases he : k = c
        · exact he ▸ ⟨none, hpart, nofun⟩
        · have hmem : k ∈ (Resolution.named w σ (before ++ id :: after)).filter (· != c) :=
            List.mem_filter.mpr ⟨hk, bne_iff_ne.mpr he⟩
          rw [hfilter] at hmem
          exact htells k (List.mem_filter.mp hmem).1
      · rw [ClassMacros.sheetText, ClassMacros.sheetText, ← join_blocks_filter hblock, ← hfilter,
          join_blocks_filter hblock]
    · rw [Resolution.named_insert_of_known hc ⟨first, hfirst, Resolution.class?_of_answer hknown⟩]
      exact ⟨htells, rfl⟩

/-- In another order the text has the same blocks. -/
theorem rendered_perm {ids' : List String} (h : rendered w σ ids = .ok (.ok (), text))
    (hp : ids'.Perm ids) : rendered w σ ids' =
      .ok (.ok (), ClassMacros.sheetText ((Resolution.named w σ ids').map (block w σ))) := by
  obtain ⟨hanswers, htells, -⟩ := rendered_eq_ok.mp h
  refine rendered_eq_ok.mpr ⟨fun id hid => hanswers id (hp.mem_iff.mp hid), fun c hc => ?_, rfl⟩
  obtain ⟨id, hid, hclass⟩ := Resolution.mem_named.mp hc
  exact htells c (Resolution.mem_named.mpr ⟨id, hp.mem_iff.mp hid, hclass⟩)

end Generator

/-- Where all modules have been imported, a rendering that succeeds changes nothing but the host and can
be repeated. Its text is the header and the blocks of the classes, each of which depends on its class
alone, in the order of the first identifier of each, so the identifiers in any other order give the same
blocks; and an identifier that names no further class with macros changes nothing. -/
theorem rendering_of_imported {p : Progress} {σ' : State} (hi : Import.IsDone w σ)
    (h : (Generator.render w (Reach.of w) (importModule w) ids).run σ =
      (.ok (p, .ok (), text), σ')) :
    σ.AgreesWith σ' ∧ Generator.Renders w σ ids text ∧
      text = ClassMacros.sheetText ((Resolution.named w σ ids).map (Generator.block w σ)) ∧
      (∀ ids', ids'.Perm ids → Generator.Renders w σ ids' (ClassMacros.sheetText
        ((Resolution.named w σ ids').map (Generator.block w σ)))) ∧
      ∀ before id after, ids = before ++ after → Generator.AddsNothing w σ before id →
        Generator.Renders w σ (before ++ id :: after) text := by
  have hrendered : Generator.rendered w σ ids = .ok (.ok (), text) := by
    have hgives := @Generator.render_ends w σ ids hi σ.host
    rw [← hgives]
    exact congrArg (fun e => e.1.map (·.2)) h
  refine ⟨(Generator.isQuiet_render hi).agreesWith_of_run h,
    Generator.renders_of_rendered hi hrendered, (Generator.rendered_eq_ok.mp hrendered).2.2,
    fun ids' hp => Generator.renders_of_rendered hi (Generator.rendered_perm hrendered hp), ?_⟩
  rintro before id after rfl ha
  exact Generator.renders_of_rendered hi (Generator.rendered_insert hrendered ha)

namespace Market

def tap : Value := .function "tap" "tap" [] .null (.returns .null)

/-- A class that keeps a macro, one that keeps none, and one without macros whose module cannot be
printed, all in a module that has been imported. -/
def site : Site :=
  (((Site.empty default).addClass "Till" "Till" "Till" "app" [] .null
      [(sharedField, .dict [(.str "tap", tap)])]).addClass "Plain" "Plain" "Plain" "app" [] .null []
    |>.addClass "Odd" "Odd" "Odd" "app" [] .null
      [("__module__", .raising { kind := "ValueError", message := "boom" })])
    |>.addModules [{ name := "app" }]

def imported : State :=
  { site.state with
    modules := site.state.modules.put "app"
      [("Till", .cls (.defined "Till")), ("Plain", .cls (.defined "Plain")),
       ("Odd", .cls (.defined "Odd"))] }

theorem isDone_imported : Import.IsDone site.world imported := by
  intro m hm
  obtain rfl := List.mem_singleton.mp hm
  rfl

/-- The text that rendering some classes gives, if it succeeds. -/
def text? (ids : List String) : Option String :=
  ((Generator.render site.world (Reach.of site.world) (importModule site.world) ids).run
    imported).1.toOption.bind fun (_, result, text) => result.toOption.map fun () => text

theorem exists_run {ids : List String} {text : String} (h : text? ids = some text) :
    ∃ p σ', (Generator.render site.world (Reach.of site.world) (importModule site.world) ids).run
      imported = (.ok (p, .ok (), text), σ') := by
  rw [text?] at h
  generalize (Generator.render site.world (Reach.of site.world) (importModule site.world) ids).run
    imported = outcome at h ⊢
  obtain ⟨_ | ⟨p, _ | _, found⟩, σ'⟩ := outcome
  · cases h
  · cases h
  · obtain rfl := Option.some.inj h
    exact ⟨p, σ', rfl⟩

def stub : String :=
  "# -*- coding: utf-8 -*-\n\n# region app\nclass Till:\n    @staticmethod\n    def tap():\n" ++
    "        ...\n# endregion\n"

theorem text?_eq : text? ["app:Till", "app:Plain"] = some stub := by decide +kernel

end Market

open Market in
/-- The class with a macro is rendered alike in another order, and with identifiers of nothing, of a class
without macros and of the same class once more. -/
theorem market_renderings :
    Generator.Renders site.world imported ["app:Plain", "app:Till"] (ClassMacros.sheetText
        ((Resolution.named site.world imported ["app:Plain", "app:Till"]).map
          (Generator.block site.world imported))) ∧
      Generator.Renders site.world imported ["app:Nothing", "app:Till", "app:Plain"] stub ∧
      Generator.Renders site.world imported ["app:Plain", "app:Till", "app:Plain"] stub ∧
      Generator.Renders site.world imported ["app:Till", " app.Till", "app:Plain"] stub := by
  obtain ⟨p, σ', hrun⟩ := exists_run text?_eq
  obtain ⟨-, -, -, hperm, hinsert⟩ := rendering_of_imported isDone_imported hrun
  refine ⟨hperm _ (List.Perm.swap _ _ _), hinsert [] _ _ rfl (.inl rfl),
    hinsert [] _ _ rfl (.inr ⟨_, rfl, .inl ⟨rfl, _, rfl⟩⟩),
    hinsert ["app:Till"] _ _ rfl (.inr ⟨.defined "Till", rfl, .inr ⟨_, List.mem_singleton_self _, rfl⟩⟩)⟩

open Market in
/-- A class without macros whose module cannot be printed is in the way of every class. -/
theorem odd_class_not_rendered :
    Import.IsDone site.world imported ∧
      Resolution.answer site.world imported "app:Odd" = .ok (some (.cls (.defined "Odd"))) ∧
      Extraction.held? imported (.cls (.defined "Odd")) = none ∧
      text? ["app:Till", "app:Plain"] = some stub ∧
      text? ["app:Till", "app:Plain", "app:Odd"] = none :=
  ⟨isDone_imported, rfl, rfl, by decide +kernel, by decide +kernel⟩

end MacroStubs
