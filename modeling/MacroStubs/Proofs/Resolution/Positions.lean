import MacroStubs.Proofs.Collection.Counts

/-! # Where identifiers go

Each position of a list of identifiers goes to one of three lists: to the classes resolved, if it is the
first that names its class, to those left over, if it names none, and else to the duplicates.
-/

namespace MacroStubs

/-- Where a position of a list of identifiers goes. -/
inductive Fate where
  | resolved
  | unresolved
  | duplicate
  deriving DecidableEq

namespace Fate

variable {answers : List (Option ClassId)} {i : Nat}

/-- The fate of a position, given which classes the identifiers name. -/
def of (answers : List (Option ClassId)) (i : Nat) : Fate :=
  match answers[i]?.join with
  | none => .unresolved
  | some c => if some c ∈ answers.take i then .duplicate else .resolved

/-- The positions of one fate, in their order. -/
def positions (answers : List (Option ClassId)) (p : Fate) : List Nat :=
  (List.range answers.length).filter fun i => of answers i = p

theorem mem_positions {p : Fate} : i ∈ positions answers p ↔ i < answers.length ∧ of answers i = p := by
  simp [positions]

theorem pairwise_positions (p : Fate) : (positions answers p).Pairwise (· < ·) :=
  List.Pairwise.filter _ List.pairwise_lt_range

theorem disjoint_positions {p q : Fate} (h : p ≠ q) :
    (positions answers p).Disjoint (positions answers q) := by
  intro i hp hq
  exact h ((mem_positions.mp hp).2.symm.trans (mem_positions.mp hq).2)

/-- Each position has one fate. -/
theorem perm_positions : (positions answers .resolved ++ positions answers .unresolved ++
    positions answers .duplicate).Perm (List.range answers.length) := by
  have hnodup (p : Fate) : (positions answers p).Nodup := List.nodup_range.filter _
  rw [List.perm_ext_iff_of_nodup _ List.nodup_range]
  · intro i
    simp only [List.mem_append, mem_positions, List.mem_range]
    cases of answers i <;> simp
  · refine ((hnodup _).append (hnodup _) (disjoint_positions (by decide))).append (hnodup _) ?_
    rw [List.disjoint_append_left]
    exact ⟨disjoint_positions (by decide), disjoint_positions (by decide)⟩

theorem of_eq_unresolved (hi : i < answers.length) :
    of answers i = .unresolved ↔ answers[i]? = some none := by
  rw [of, List.getElem?_eq_getElem hi]
  cases answers[i] with
  | none => simp
  | some c =>
    rw [Option.join_some]
    dsimp only
    split <;> simp

/-- A position is a duplicate if an earlier one names its class. -/
theorem of_eq_duplicate : of answers i = .duplicate ↔
    ∃ j < i, ∃ c, answers[j]? = some (some c) ∧ answers[i]? = some (some c) := by
  have hearlier (c : ClassId) : some c ∈ answers.take i ↔ ∃ j < i, answers[j]? = some (some c) := by
    rw [List.mem_iff_getElem?]
    simp only [List.getElem?_take, Option.ite_none_right_eq_some]
  rw [of]
  rcases answers[i]? with _ | _ | c
  · simp
  · simp
  · simp [hearlier]

theorem of_last_none (answers : List (Option ClassId)) :
    of (answers ++ [none]) answers.length = .unresolved := by
  rw [of, List.getElem?_concat_length]
  rfl

theorem of_last_some (c : ClassId) : of (answers ++ [some c]) answers.length =
    if some c ∈ answers then .duplicate else .resolved := by
  rw [of, List.getElem?_concat_length, List.take_left']
  · rfl
  · rfl

theorem positions_concat {answer : Option ClassId} {q : Fate}
    (hq : of (answers ++ [answer]) answers.length = q) (p : Fate) :
    positions (answers ++ [answer]) p = positions answers p ++ if q = p then [answers.length] else [] := by
  have hof (i : Nat) (hi : i ∈ List.range answers.length) :
      of (answers ++ [answer]) i = of answers i := by
    have hi := List.mem_range.mp hi
    rw [of, of, List.getElem?_append_left hi, List.take_append_of_le_length hi.le]
  rw [positions, positions, List.length_append, List.length_singleton, List.range_succ, List.filter_append]
  congr 1
  · exact List.filter_congr fun i hi => by rw [hof i hi]
  · rw [List.filter_singleton, hq]
    split <;> simp_all

end Fate

namespace Resolution

variable {r : Reach} {importModule : String → Run Unit} {σ τ : State} {done res : Resolution}
variable {ids later : List String} {answers : List (Option ClassId)}

/-- The lists of a resolution hold what stands at the positions that go to them, in the order of the
positions, and the classes that were named, each once. -/
structure Parted (ids : List String) (answers : List (Option ClassId)) (done : Resolution) : Prop where
  length : answers.length = ids.length
  resolved : List.Forall₂
    (fun i e => ids[i]? = some e.1 ∧ ∃ c, answers[i]? = some (some c) ∧ e.2 = .cls c)
    (Fate.positions answers .resolved) done.resolved
  unresolved : List.Forall₂ (fun i id => ids[i]? = some id) (Fate.positions answers .unresolved)
    done.unresolved
  duplicates : List.Forall₂ (fun i id => ids[i]? = some id) (Fate.positions answers .duplicate)
    done.duplicates
  named : ∀ c, Value.cls c ∈ done.resolved.map (·.2) ↔ some c ∈ answers
  nodup : (done.resolved.map (·.2)).Nodup

theorem Parted.nil : Parted [] [] {} where
  length := rfl
  resolved := .nil
  unresolved := .nil
  duplicates := .nil
  named c := by simp
  nodup := List.nodup_nil

/-- A resolution with one more identifier, which names a class or nothing. -/
def add (done : Resolution) (id : String) : Option ClassId → Resolution
  | none => { done with unresolved := done.unresolved ++ [id] }
  | some c =>
    if done.resolved.any fun e => e.2 == Value.cls c then { done with duplicates := done.duplicates ++ [id] }
    else { done with resolved := done.resolved ++ [(id, .cls c)] }

namespace Parted

theorem any_iff (h : done.Parted ids answers) (c : ClassId) :
    (done.resolved.any fun e => e.2 == Value.cls c) = true ↔ some c ∈ answers := by
  rw [← h.named, List.any_eq_true, List.mem_map]
  simp [beq_cls]

theorem length_concat (h : done.Parted ids answers) (id : String) (answer : Option ClassId) :
    (answers ++ [answer]).length = (ids ++ [id]).length := by
  rw [List.length_append, List.length_append, h.length]
  rfl

theorem last_concat (h : done.Parted ids answers) (id : String) :
    (ids ++ [id])[answers.length]? = some id := by
  rw [h.length, List.getElem?_concat_length]

/-- What stood in the lists stays behind one more identifier. -/
theorem getElem?_concat_of_some {α : Type} {xs : List α} {x y : α} {i : Nat} (h : xs[i]? = some y) :
    (xs ++ [x])[i]? = some y := by
  rw [List.getElem?_append_left (List.getElem?_eq_some_iff.mp h).1, h]

theorem resolved_concat (h : done.Parted ids answers) (id : String) (answer : Option ClassId) :
    List.Forall₂ (fun i e => (ids ++ [id])[i]? = some e.1 ∧
        ∃ c, (answers ++ [answer])[i]? = some (some c) ∧ e.2 = .cls c)
      (Fate.positions answers .resolved) done.resolved :=
  h.resolved.imp fun _ _ ⟨hi, c, hc, he⟩ =>
    ⟨getElem?_concat_of_some hi, c, getElem?_concat_of_some hc, he⟩

theorem texts_concat {places : List Nat} {texts : List String}
    (h : List.Forall₂ (fun i id => ids[i]? = some id) places texts) (id : String) :
    List.Forall₂ (fun i id' => (ids ++ [id])[i]? = some id') places texts :=
  h.imp fun _ _ hi => getElem?_concat_of_some hi

/-- An identifier that names nothing is left over. -/
theorem concat_none (h : done.Parted ids answers) (id : String) :
    Parted (ids ++ [id]) (answers ++ [none])
      { done with unresolved := done.unresolved ++ [id] } := by
  have hpositions := Fate.positions_concat (Fate.of_last_none answers)
  refine ⟨h.length_concat id none, ?_, ?_, ?_, fun k => ?_, h.nodup⟩
  · rw [hpositions, if_neg (by decide), List.append_nil]
    exact h.resolved_concat id none
  · rw [hpositions, if_pos rfl]
    exact List.rel_append (texts_concat h.unresolved id) (.cons (h.last_concat id) .nil)
  · rw [hpositions, if_neg (by decide), List.append_nil]
    exact texts_concat h.duplicates id
  · rw [List.mem_append, ← h.named]
    simp

/-- An identifier of a class that was named is a duplicate. -/
theorem concat_taken (h : done.Parted ids answers) (id : String) {c : ClassId}
    (htaken : some c ∈ answers) :
    Parted (ids ++ [id]) (answers ++ [some c])
      { done with duplicates := done.duplicates ++ [id] } := by
  have hpositions := Fate.positions_concat ((Fate.of_last_some c).trans (if_pos htaken))
  refine ⟨h.length_concat id (some c), ?_, ?_, ?_, fun k => ?_, h.nodup⟩
  · rw [hpositions, if_neg (by decide), List.append_nil]
    exact h.resolved_concat id (some c)
  · rw [hpositions, if_neg (by decide), List.append_nil]
    exact texts_concat h.unresolved id
  · rw [hpositions, if_pos rfl]
    exact List.rel_append (texts_concat h.duplicates id) (.cons (h.last_concat id) .nil)
  · rw [List.mem_append, List.mem_singleton, ← h.named]
    refine ⟨.inl, ?_⟩
    rintro (hk | hk)
    · exact hk
    · rw [Option.some.inj hk]
      exact (h.named c).mpr htaken

/-- An identifier of a class that was not named is resolved. -/
theorem concat_fresh (h : done.Parted ids answers) (id : String) {c : ClassId}
    (hfresh : some c ∉ answers) :
    Parted (ids ++ [id]) (answers ++ [some c])
      { done with resolved := done.resolved ++ [(id, .cls c)] } := by
  have hpositions := Fate.positions_concat ((Fate.of_last_some c).trans (if_neg hfresh))
  have hlast : (answers ++ [some c])[answers.length]? = some (some c) :=
    List.getElem?_concat_length
  refine ⟨h.length_concat id (some c), ?_, ?_, ?_, fun k => ?_, ?_⟩
  · rw [hpositions, if_pos rfl]
    exact List.rel_append (h.resolved_concat id (some c))
      (.cons ⟨h.last_concat id, c, hlast, rfl⟩ .nil)
  · rw [hpositions, if_neg (by decide), List.append_nil]
    exact texts_concat h.unresolved id
  · rw [hpositions, if_neg (by decide), List.append_nil]
    exact texts_concat h.duplicates id
  · rw [List.map_append, List.mem_append, h.named, List.mem_append]
    simp
  · rw [List.map_append, List.nodup_append]
    refine ⟨h.nodup, List.nodup_singleton _, ?_⟩
    intro v hv v' hc hvc
    obtain rfl : v' = Value.cls c := List.mem_singleton.mp hc
    exact hfresh ((h.named c).mp (hvc ▸ hv))

/-- One more identifier adds its position to one of the three lists. -/
theorem concat (h : done.Parted ids answers) (id : String) (answer : Option ClassId) :
    (done.add id answer).Parted (ids ++ [id]) (answers ++ [answer]) := by
  cases answer with
  | none => exact h.concat_none id
  | some c =>
    rw [add]
    split
    · rename_i htaken
      exact h.concat_taken id ((h.any_iff c).mp htaken)
    · rename_i hfresh
      exact h.concat_fresh id fun hc => hfresh ((h.any_iff c).mpr hc)

end Parted

/-- Resolving one identifier more adds it to one of the lists. -/
theorem add_of_resolveFrom {id : String}
    (h : (resolveFrom r importModule done (id :: later)).run σ = (.ok res, τ)) :
    ∃ answer ρ σ', (resolve r importModule id).run σ = (.ok (answer.map .cls), ρ) ∧ ρ.AgreesWith σ' ∧
      (resolveFrom r importModule (done.add id answer) later).run σ' = (.ok res, τ) := by
  obtain ⟨answer, ρ, hanswer, h⟩ := Run.run_bind_eq_ok.mp h
  cases answer with
  | none => exact ⟨none, ρ, ρ, hanswer, .refl ρ, h⟩
  | some v =>
    obtain ⟨c, rfl⟩ := isClass_of_resolve hanswer
    refine ⟨some c, ρ, ?_⟩
    dsimp only at h
    split at h
    · rename_i htaken
      obtain ⟨_, σ', hreport, h⟩ := Run.run_bind_eq_ok.mp h
      rw [add, if_pos htaken]
      exact ⟨σ', hanswer, (Run.IsQuiet.debug _ _).agreesWith_of_run hreport, h⟩
    · rename_i hfresh
      rw [add, if_neg hfresh]
      exact ⟨ρ, hanswer, .refl ρ, h⟩

/-- Resolving identifiers adds each of them to one of the lists. -/
theorem parted_of_resolveFrom (hd : done.Parted ids answers)
    (h : (resolveFrom r importModule done later).run σ = (.ok res, τ)) :
    ∃ found, Answered r importModule later found σ τ ∧
      res.Parted (ids ++ later) (answers ++ found) := by
  induction later generalizing ids answers done σ with
  | nil =>
    cases h
    exact ⟨[], .nil (.refl _), by rwa [List.append_nil, List.append_nil]⟩
  | cons id rest ih =>
    obtain ⟨answer, ρ, σ', hanswer, hagrees, hrest⟩ := add_of_resolveFrom h
    obtain ⟨found, hfound, hres⟩ := ih (hd.concat id answer) hrest
    refine ⟨answer :: found, .cons (.refl σ) hanswer (hfound.of_agrees hagrees), ?_⟩
    rwa [List.append_assoc, List.append_assoc] at hres

end Resolution

namespace Resolver

variable {r : Reach} {importModule : String → Run Unit} {σ τ : State} {self self' : Resolver}
variable {ids : List String} {pairs : List (String × Value)}

theorem Step.lift_run {α : Type} {x : Run α} {a : α} {s : Resolver × State} :
    (Step.lift x).run (self, σ) = (.ok a, s) ↔ x.run σ = (.ok a, s.2) ∧ s.1 = self := by
  obtain ⟨self', τ⟩ := s
  change ((x.run σ).1, self, (x.run σ).2) = _ ↔ _
  generalize x.run σ = outcome
  obtain ⟨result, τ'⟩ := outcome
  constructor
  · intro h
    cases h
    exact ⟨rfl, rfl⟩
  · rintro ⟨h, rfl⟩
    cases h
    rfl

/-- A resolver that goes on resolving finds the classes of the resolution, and keeps its other lists. -/
theorem resolveFrom_of_resolveBehind (self : Resolver) {resolved : List (String × Value)}
    (h : (resolveBehind r importModule resolved ids).run (self, σ) = (.ok pairs, self', τ)) :
    (Resolution.resolveFrom r importModule
      { resolved, unresolved := self.unresolved, duplicates := self.duplicates } ids).run σ =
        (.ok { resolved := pairs, unresolved := self'.unresolved, duplicates := self'.duplicates }, τ) := by
  induction ids generalizing resolved self σ with
  | nil =>
    cases h
    rfl
  | cons id rest ih =>
    obtain ⟨answer, ⟨_, ρ⟩, hlift, hrest⟩ := Run.run_bind_eq_ok.mp h
    obtain ⟨hanswer, rfl⟩ := Step.lift_run.mp hlift
    rw [Resolution.resolveFrom_cons]
    refine Run.run_bind_eq_ok.mpr ⟨answer, ρ, hanswer, ?_⟩
    cases answer with
    | none => exact ih _ hrest
    | some cls =>
      dsimp only at hrest ⊢
      split at hrest
      · rename_i htaken
        obtain ⟨_, ⟨_, σ'⟩, hlift', hlater⟩ := Run.run_bind_eq_ok.mp hrest
        obtain ⟨hreport, rfl⟩ := Step.lift_run.mp hlift'
        rw [if_pos htaken]
        exact Run.run_bind_eq_ok.mpr ⟨_, σ', hreport, ih _ hlater⟩
      · rename_i hfresh
        rw [if_neg hfresh]
        exact ih _ hrest

/-- A resolver finds what identifiers name, and keeps what they leave over. -/
theorem ofIdentifiers_of_resolveAll
    (h : (resolveAll r importModule ids).run (self, σ) = (.ok pairs, self', τ)) :
    (Resolution.ofIdentifiers r importModule ids).run σ =
      (.ok { resolved := pairs, unresolved := self'.unresolved, duplicates := self'.duplicates }, τ) :=
  resolveFrom_of_resolveBehind {} h

/-- What an earlier call left over does not count. -/
theorem resolveAll_run (self other : Resolver) : (resolveAll r importModule ids).run (self, σ) =
    (resolveAll r importModule ids).run (other, σ) :=
  rfl

end Resolver

/-- Where all identifiers can be resolved, each position goes to one of three lists, in the order of the
positions: to the pairs, which hold each class once, with the first identifier that names it, to those left
over if it names no class, and to the duplicates if an earlier one names the same class. Each identifier
names what it does in the state that those before it left. What an earlier call left over plays no role. -/
theorem positions_of_resolveAll (w : World) (ids : List String) (self self' : Resolver) (σ σ' : State)
    (pairs : List (String × Value))
    (h : (Resolver.resolveAll (Reach.of w) (importModule w) ids).run (self, σ) =
      (.ok pairs, self', σ')) :
    ∃ (answers : List (Option ClassId)) (ks us ds : List Nat),
      Resolution.Answered (Reach.of w) (importModule w) ids answers σ σ' ∧
      (ks ++ us ++ ds).Perm (List.range ids.length) ∧
      ks.Pairwise (· < ·) ∧ us.Pairwise (· < ·) ∧ ds.Pairwise (· < ·) ∧
      List.Forall₂ (fun i e => ids[i]? = some e.1 ∧ ∃ c, answers[i]? = some (some c) ∧ e.2 = .cls c)
        ks pairs ∧
      List.Forall₂ (fun i id => ids[i]? = some id) us self'.unresolved ∧
      List.Forall₂ (fun i id => ids[i]? = some id) ds self'.duplicates ∧
      (pairs.map (·.2)).Nodup ∧
      (∀ i < ids.length, i ∈ us ↔ answers[i]? = some none) ∧
      (∀ i < ids.length, i ∈ ds ↔
        ∃ j < i, ∃ c, answers[j]? = some (some c) ∧ answers[i]? = some (some c)) ∧
      ∀ other, (Resolver.resolveAll (Reach.of w) (importModule w) ids).run (other, σ) =
        (.ok pairs, self', σ') := by
  have hresolution := Resolver.ofIdentifiers_of_resolveAll h
  obtain ⟨answers, hanswered, hparted⟩ := Resolution.parted_of_resolveFrom .nil hresolution
  rw [List.nil_append, List.nil_append] at hparted
  refine ⟨answers, _, _, _, hanswered, ?_, Fate.pairwise_positions _, Fate.pairwise_positions _,
    Fate.pairwise_positions _, hparted.resolved, hparted.unresolved, hparted.duplicates, hparted.nodup,
    ?_, ?_, fun other => (Resolver.resolveAll_run other self).trans h⟩
  · rw [← hparted.length]
    exact Fate.perm_positions
  · intro i hi
    rw [← hparted.length] at hi
    rw [Fate.mem_positions, and_iff_right hi, Fate.of_eq_unresolved hi]
  · intro i hi
    rw [← hparted.length] at hi
    rw [Fate.mem_positions, and_iff_right hi, Fate.of_eq_duplicate]

namespace Kiosk

/-- A module with one class, which has not been imported yet. -/
def site : Site :=
  ((Site.empty default).addClass "Till" "Till" "Till" "app" [] .null []).addModules
    [{ name := "app", attributes := [("Till", .cls (.defined "Till"))] }]

def ids : List String := ["app:Nothing", "app:Till", "app", " app.Till"]

/-- What a resolver that an earlier call left with an identifier finds. -/
def outcome : Except Failure (List (String × Value)) × Resolver × State :=
  (Resolver.resolveAll (Reach.of site.world) (importModule site.world) ids).run
    ({ unresolved := ["app:Stand"] }, site.state)

theorem outcome_lists : outcome.1.isOk = true ∧ outcome.2.1.unresolved = ["app:Nothing", "app"] ∧
    outcome.2.1.duplicates = [" app.Till"] := by decide +kernel

theorem exists_outcome : ∃ pairs self' σ', outcome = (.ok pairs, self', σ') ∧
    self'.unresolved = ["app:Nothing", "app"] ∧ self'.duplicates = [" app.Till"] := by
  obtain ⟨hok, hlists⟩ := outcome_lists
  generalize outcome = found at *
  obtain ⟨result, self', σ'⟩ := found
  cases result with
  | error f => cases hok
  | ok pairs => exact ⟨pairs, self', σ', rfl, hlists⟩

end Kiosk

/-- Of four identifiers the first and the third are left over, and the last one is a duplicate. -/
theorem kiosk_positions : ∃ answers ks us ds σ',
    Resolution.Answered (Reach.of Kiosk.site.world) (importModule Kiosk.site.world) Kiosk.ids answers
      Kiosk.site.state σ' ∧
    (ks ++ us ++ ds).Perm (List.range 4) ∧
    List.Forall₂ (fun i id => Kiosk.ids[i]? = some id) us ["app:Nothing", "app"] ∧
    List.Forall₂ (fun i id => Kiosk.ids[i]? = some id) ds [" app.Till"] := by
  obtain ⟨pairs, self', σ', h, hunresolved, hduplicates⟩ := Kiosk.exists_outcome
  obtain ⟨answers, ks, us, ds, hanswers, hperm, -, -, -, -, hus, hds, -⟩ :=
    positions_of_resolveAll _ _ _ _ _ _ _ h
  rw [hunresolved] at hus
  rw [hduplicates] at hds
  exact ⟨answers, ks, us, ds, σ', hanswers, hperm, hus, hds⟩

end MacroStubs
