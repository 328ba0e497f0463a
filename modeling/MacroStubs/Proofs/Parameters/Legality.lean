import MacroStubs.Proofs.Parameters.Order
import MacroStubs.Proofs.Parameters.PlainData
import Mathlib.Data.List.Nodup
import Mathlib.Data.List.TakeWhile

/-! # Parameter lists that a definition may have

The text of parameters is a parameter list if and only if no positional parameter is written without a
default behind one that is written with a default. Whether a default is written depends on its value
alone, so a list with its defaults in order may be written as one that no definition has.
-/

namespace MacroStubs

namespace Part

variable {part : Part} {parts : List Part} {name : List Char}

/-- What the reading of a part from its text relies on. -/
structure IsReadable (part : Part) : Prop where
  declarable : ∀ name ∈ part.name?, Text.isDeclarable (String.ofList name) = true
  passes : ∀ text ∈ part.default?, Scan.Passes [] text

/-- What a declarable name is, read as a text. -/
theorem of_isDeclarable (h : Text.isDeclarable (String.ofList name) = true) :
    name.all Scan.isOrdinary = true ∧ '=' ∉ name ∧ '*' ∉ name ∧ '/' ∉ name ∧ ' ' ∉ name ∧
      name ≠ [] := by
  have hn (c : Char) (hs : Text.isIdentifierStart c = false)
      (hc : Text.isIdentifierContinue c = false) : c ∉ name := by
    have := Text.not_mem_of_isDeclarable h hs hc
    rwa [String.toList_ofList] at this
  refine ⟨?_, hn _ (by decide) (by decide), hn _ (by decide) (by decide),
    hn _ (by decide) (by decide), hn _ (by decide) (by decide), ?_⟩
  · refine List.all_eq_true.mpr fun c hc => ?_
    cases ho : Scan.isOrdinary c with
    | true => rfl
    | false =>
      rw [Scan.isOrdinary, Bool.not_eq_false', List.contains_iff_mem] at ho
      simp only [List.mem_cons, List.not_mem_nil, or_false] at ho
      rcases ho with rfl | rfl | rfl | rfl | rfl | rfl | rfl | rfl | rfl | rfl <;>
        exact absurd hc (hn _ (by decide) (by decide))
  · rintro rfl
    exact absurd h (by decide)

theorem passes_text (h : part.IsReadable) : Scan.Passes [] part.text := by
  cases part with
  | slash | star => decide
  | extraPositional name =>
    exact .cons (by decide) (Scan.passes_of_isOrdinary (of_isDeclarable (h.declarable _ rfl)).1)
  | extraKeyword name =>
    exact .cons (by decide)
      (.cons (by decide) (Scan.passes_of_isOrdinary (of_isDeclarable (h.declarable _ rfl)).1))
  | plain name default =>
    have hname : Scan.Passes [] name :=
      Scan.passes_of_isOrdinary (of_isDeclarable (h.declarable _ rfl)).1
    cases default with
    | none => exact hname
    | some default => exact hname.append (.cons (by decide) (h.passes default rfl))

/-- A name is read up to the sign behind it. -/
theorem read_plain {default : Option (List Char)} (he : '=' ∉ name) (hs : '*' ∉ name)
    (hl : '/' ∉ name) (hne : name ≠ []) :
    read (plain name default).text = plain name default := by
  obtain ⟨c, rest, rfl⟩ := List.exists_cons_of_ne_nil hne
  have hstar : c ≠ '*' := fun h => hs (h ▸ List.mem_cons_self)
  have hslash : c ≠ '/' := fun h => hl (h ▸ List.mem_cons_self)
  have hall : ∀ d ∈ c :: rest, (d != '=') = true := by
    intro d hd
    simpa using fun h : d = '=' => he (h ▸ hd)
  cases default with
  | none =>
    have hdrop : (c :: rest).dropWhile (· ≠ '=') = [] :=
      List.dropWhile_eq_nil_iff.mpr (by simpa using hall)
    rw [text, read]
    · rw [hdrop]
    · simp [hslash]
    · simp [hstar]
    · simp [hstar]
    · simp [hstar]
  | some default =>
    have hdrop : (c :: rest ++ '=' :: default).dropWhile (· ≠ '=') = '=' :: default := by
      rw [List.dropWhile_append_of_pos (by simpa using hall)]
      simp
    have htake : (c :: rest ++ '=' :: default).takeWhile (· ≠ '=') = c :: rest := by
      rw [List.takeWhile_append_of_pos (by simpa using hall)]
      simp
    rw [text, read]
    · rw [hdrop, htake]
    · simp [hslash]
    · simp [hstar]
    · simp [hstar]
    · simp [hstar]

theorem read_text (h : part.IsReadable) : read part.text = part := by
  cases part with
  | slash | star => rfl
  | extraPositional name =>
    obtain ⟨-, -, hs, -, -, hne⟩ := of_isDeclarable (h.declarable _ rfl)
    obtain ⟨c, rest, rfl⟩ := List.exists_cons_of_ne_nil hne
    have hstar : c ≠ '*' := fun h => hs (h ▸ List.mem_cons_self)
    simp [text, read, hstar]
  | extraKeyword name => rfl
  | plain name default =>
    obtain ⟨-, he, hs, hl, -, hne⟩ := of_isDeclarable (h.declarable _ rfl)
    exact read_plain he hs hl hne

/-- The text of a part starts with a character that is no blank. -/
theorem exists_text_eq_cons (h : part.IsReadable) : ∃ c rest, part.text = c :: rest ∧ c ≠ ' ' := by
  cases part with
  | slash | star | extraPositional name | extraKeyword name =>
    exact ⟨_, _, rfl, by decide⟩
  | plain name default =>
    obtain ⟨-, -, -, -, hb, hne⟩ := of_isDeclarable (h.declarable _ rfl)
    obtain ⟨c, rest, rfl⟩ := List.exists_cons_of_ne_nil hne
    have hc : c ≠ ' ' := fun h => hb (h ▸ List.mem_cons_self)
    cases default with
    | none => exact ⟨c, rest, rfl, hc⟩
    | some default => exact ⟨c, _, rfl, hc⟩

/-- Parts are read from their texts with commas between them. -/
theorem ofText?_commas (h : ∀ part ∈ parts, part.IsReadable) :
    ofText? (Value.commas (parts.map Part.text)) = some parts := by
  cases parts with
  | nil => rfl
  | cons first later =>
    obtain ⟨hfirst, hlater⟩ := List.forall_mem_cons.mp h
    obtain ⟨c, rest, htext, hc⟩ := exists_text_eq_cons hfirst
    have hne : Value.commas ((first :: later).map Part.text) ≠ [] := by
      rw [List.map_cons, htext]
      cases later.map Part.text <;> nofun
    have hdrop (part : Part) (hp : part.IsReadable) :
        part.text.dropWhile (· = ' ') = part.text := by
      obtain ⟨c, rest, ht, hc⟩ := exists_text_eq_cons hp
      rw [ht, List.dropWhile_cons_of_neg (by simpa using hc)]
    have hread : ∀ part ∈ later,
        read ((' ' :: part.text).dropWhile (· = ' ')) = part := by
      intro part hp
      rw [List.dropWhile_cons_of_pos (by decide), hdrop part (hlater part hp),
        read_text (hlater part hp)]
    rw [ofText?, if_neg hne, List.map_cons, Scan.pieces?_commas (passes_text hfirst)
      (List.forall_mem_map.mpr fun part hp => passes_text (hlater part hp)), Option.map_some,
      List.map_cons, hdrop first hfirst, read_text hfirst, List.map_map, List.map_map]
    congr 2
    exact (List.map_congr_left hread).trans (List.map_id later)

end Part

variable {labels : Labels} {ps : ParameterList} {p : Parameter Value} {text : List Char}

/-- The literal text of a value is one. -/
theorem Value.isOk_of_literal? {v : Value} (h : v.literal? labels = .ok (some text)) :
    (Literal.read text).isOk = true := by
  rw [Value.literal?] at h
  split at h
  · split at h
    case h_1 hr =>
      obtain rfl := Option.some.inj (pure_eq_ok.mp h)
      rw [hr]
      rfl
    · cases h
    · cases h
  · split at h <;> cases h

/-- Whether the literal text of a value, if it has one, may stand between commas. It need not: an
object may print as `1, 2`. -/
def Value.StandsAlone (labels : Labels) (v : Value) : Prop :=
  ∀ text, v.literal? labels = .ok (some text) → Scan.Passes [] text

theorem Value.IsPlain.standsAlone {v : Value} (h : v.IsPlain) : v.StandsAlone labels := by
  intro text ht
  rw [Value.literal?] at ht
  split at ht
  case h_1 hp =>
    split at ht
    · obtain rfl := Option.some.inj (pure_eq_ok.mp ht)
      exact h.passes hp
    · cases ht
    · cases ht
  · split at ht <;> cases ht

/-- The default that is written is the literal text of the default there is. -/
theorem Parameter.exists_of_writtenDefault? (h : p.writtenDefault? labels = some text) :
    ∃ v, p.default = some v ∧ v.literal? labels = .ok (some text) := by
  rw [writtenDefault?] at h
  split at h
  case h_1 hd =>
    subst h
    rw [defaultText?] at hd
    split at hd
    · cases hd
    · exact ⟨_, ‹_›, hd⟩
  · cases h

namespace ParameterList

/-- A part stands for a parameter, or it is a mark between two. -/
theorem of_mem_partList {part : Part} {star : Bool} (h : part ∈ partList labels star ps) :
    part = .slash ∨ part = .star ∨ ∃ p ∈ ps, part = p.part labels := by
  induction ps generalizing star with
  | nil => cases h
  | cons p rest ih =>
    rw [partList, List.mem_append, List.mem_cons, List.mem_append] at h
    rcases h with h | rfl | h | h
    · exact .inr (.inl (by revert h; split <;> simp))
    · exact .inr (.inr ⟨p, List.mem_cons_self, rfl⟩)
    · exact .inl (by revert h; split <;> simp)
    · rcases ih h with h | h | ⟨q, hq, h⟩
      · exact .inl h
      · exact .inr (.inl h)
      · exact .inr (.inr ⟨q, List.mem_cons_of_mem p hq, h⟩)

/-- What holds of every name and of every written default holds of those of the parts. -/
theorem forall_mem_partList {N D : List Char → Prop} (hn : ∀ p ∈ ps, N p.name.toList)
    (hd : ∀ p ∈ ps, ∀ text ∈ p.writtenDefault? labels, D text) :
    ∀ part ∈ partList labels false ps,
      (∀ name ∈ part.name?, N name) ∧ ∀ text ∈ part.default?, D text := by
  intro part hpart
  rcases of_mem_partList hpart with rfl | rfl | ⟨p, hp, rfl⟩
  · simp [Part.name?, Part.default?]
  · simp [Part.name?, Part.default?]
  · rw [Parameter.part]
    split
    · simpa [Part.name?, Part.default?] using hn p hp
    · simpa [Part.name?, Part.default?] using hn p hp
    · simpa [Part.name?, Part.default?] using ⟨hn p hp, hd p hp⟩

/-- The names and kinds of parameters are those of a signature. -/
structure IsSignature (ps : ParameterList) : Prop where
  declarable : ∀ p ∈ ps, Text.isDeclarable p.name = true
  distinct : (ps.map (·.name)).Nodup
  kinds : KindsInOrder ps

/-- Behind a positional parameter that has a default each one has. -/
def DefaultsInOrder (ps : ParameterList) : Prop :=
  ps.Pairwise fun p q => p.kind.isPositional = true → q.kind.isPositional = true →
    p.default.isSome = true → q.default.isSome = true

instance (ps : ParameterList) : Decidable (DefaultsInOrder ps) :=
  inferInstanceAs (Decidable (List.Pairwise _ _))

/-- What the parameters of a signature are written as is a parameter list if and only if no positional
one is written without a default behind one that is written with a default. -/
theorem isParameterList_text_iff (hs : IsSignature ps)
    (ha : ∀ p ∈ ps, ∀ v ∈ p.default, v.StandsAlone labels)
    (htext : ParameterList.text labels ps = .ok text) :
    Part.isParameterList text = true ↔ KeepsDefaults labels ps := by
  have hnamed : ∀ p ∈ ps, Text.isDeclarable (String.ofList p.name.toList) = true := fun p hp => by
    rw [String.ofList_toList]
    exact hs.declarable p hp
  have hpasses : ∀ p ∈ ps, ∀ text ∈ p.writtenDefault? labels, Scan.Passes [] text := by
    intro p hp text ht
    obtain ⟨v, hv, ht⟩ := Parameter.exists_of_writtenDefault? ht
    exact ha p hp v hv text ht
  have hliteral : ∀ p ∈ ps, ∀ text ∈ p.writtenDefault? labels, (Literal.read text).isOk = true := by
    intro p _ text ht
    obtain ⟨v, -, ht⟩ := Parameter.exists_of_writtenDefault? ht
    exact Value.isOk_of_literal? ht
  have hparts : Part.ofText? text = some (partList labels false ps) := by
    rw [text_eq htext]
    refine Part.ofText?_commas fun part hp => ?_
    obtain ⟨hdeclarable, hpass⟩ := forall_mem_partList
      (N := fun name => Text.isDeclarable (String.ofList name) = true) hnamed hpasses part hp
    exact ⟨hdeclarable, hpass⟩
  have hsound : (partList labels false ps).all Part.isSound = true := by
    refine List.all_eq_true.mpr fun part hp => ?_
    rw [Part.isSound, Bool.and_eq_true, Option.all_eq_true, Option.all_eq_true]
    exact forall_mem_partList hnamed hliteral part hp
  have hnodup : ((partList labels false ps).filterMap Part.name?).Nodup := by
    have hmap : (ps.map (·.name.toList)) = (ps.map (·.name)).map String.toList := by
      rw [List.map_map]
      rfl
    rw [filterMap_name?_partList, hmap]
    exact hs.distinct.map fun _ _ => String.toList_inj.mp
  have harranged : Part.areArranged .plain false true (partList labels false ps) = true ↔
      _ ∧ KeepsDefaults labels ps := areArranged_iff (.inl rfl) hs.kinds nofun
  rw [Part.isParameterList, hparts]
  simp only [hsound, hnodup, decide_true, Bool.true_and, harranged]
  exact and_iff_right nofun

/-- Defaults that are in order are kept so where each positional one has a literal text. -/
theorem keepsDefaults_of_literals (hd : DefaultsInOrder ps)
    (hl : ∀ p ∈ ps, p.kind.isPositional = true → ∀ v ∈ p.default,
      ∃ text, v.literal? labels = .ok (some text)) : KeepsDefaults labels ps := by
  refine hd.imp_of_mem fun {p q} _ hq hpq hp hqk hwritten => ?_
  obtain ⟨text, htext⟩ := Option.isSome_iff_exists.mp hwritten
  obtain ⟨v, hv, -⟩ := Parameter.exists_of_writtenDefault? htext
  obtain ⟨u, hu⟩ := Option.isSome_iff_exists.mp (hpq hp hqk (by rw [hv]; rfl))
  obtain ⟨later, hlater⟩ := hl q hq hqk u hu
  rw [Parameter.writtenDefault?, Parameter.defaultText?, hu]
  simp only [hlater, Option.isSome_some]

/-- A keyword-only default without a literal text is left out without harm. -/
theorem isParameterList_text_of_dropped_keyword :
    let labels := Labels.plain "0x7f0000000000"
    let ps : ParameterList := [
      { name := "kind", kind := .positionalOnly },
      { name := "tags", default := some (.tuple [.str "a, b", .null]) },
      { name := "limit", kind := .keywordOnly, default := some (.custom (.str "<sentinel>")) },
      { name := "rest", kind := .extraKeyword }]
    ParameterList.text labels ps = .ok "kind, /, tags=('a, b', None), *, limit, **rest".toList ∧
      Part.isParameterList "kind, /, tags=('a, b', None), *, limit, **rest".toList = true := by
  intro labels ps
  have htext : ParameterList.text labels ps =
      .ok "kind, /, tags=('a, b', None), *, limit, **rest".toList := by decide +kernel
  have hplain : Value.IsPlain (.tuple [.str "a, b", .null]) :=
    .tuple (List.forall_mem_cons.mpr ⟨.str _, List.forall_mem_cons.mpr ⟨.null, nofun⟩⟩)
  have hdropped : (Value.custom (.str "<sentinel>")).literal? labels = .ok none := by
    decide +kernel
  refine ⟨htext, (isParameterList_text_iff ⟨by decide, by decide, by decide⟩ ?_ htext).mpr
    (by decide +kernel)⟩
  intro p hp v hv
  simp only [ps, List.mem_cons, List.not_mem_nil, or_false] at hp
  rcases hp with rfl | rfl | rfl | rfl
  · cases hv
  · cases hv
    exact hplain.standsAlone
  · cases hv
    intro text h
    rw [hdropped] at h
    cases h
  · cases hv

/-- A positional default without a literal text leaves a list that no definition has. -/
theorem not_isParameterList_text_of_dropped_positional :
    let labels := Labels.plain "0x7f0000000000"
    let ps : ParameterList := [
      { name := "a", default := some (.int 1) },
      { name := "b", default := some (.custom (.str "<sentinel>")) }]
    IsSignature ps ∧ DefaultsInOrder ps ∧ ParameterList.text labels ps = .ok "a=1, b".toList ∧
      Part.isParameterList "a=1, b".toList = false :=
  ⟨⟨by decide, by decide, by decide⟩, by decide, by decide +kernel, by decide +kernel⟩

end ParameterList
end MacroStubs
