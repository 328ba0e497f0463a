import MacroStubs.Proofs.Parameters.Legality
import MacroStubs.Proofs.Stub.Defaults

/-! # Parameters read back

The text of a parameter list tells its parameters: their names in order, the kind of each from the places
of the marks between them, and the default that each is written with. Lists with the same text agree in all
of these.
-/

namespace MacroStubs

/-- A parameter as its list shows it. -/
structure ShownParameter where
  name : String
  kind : ParameterKind
  default : Option (List Char)
  deriving DecidableEq, Repr

namespace Part

/-- A part without its default. -/
def bare : Part → Part
  | plain name _ => plain name none
  | part => part

/-- The parameters that parts stand for. A parameter behind a star is for keyword arguments alone, one in
front of a slash for positional ones alone; `starred` tells whether a star stands before the parts. -/
def assigned (starred : Bool) : List Part → List ShownParameter
  | [] => []
  | slash :: rest => assigned starred rest
  | star :: rest => assigned true rest
  | extraPositional name :: rest =>
    { name := String.ofList name, kind := .extraPositional, default := none } :: assigned true rest
  | extraKeyword name :: rest =>
    { name := String.ofList name, kind := .extraKeyword, default := none } :: assigned starred rest
  | plain name default :: rest =>
    let kind : ParameterKind :=
      if starred then .keywordOnly
      else if slash ∈ rest then .positionalOnly else .positionalOrKeyword
    { name := String.ofList name, kind, default } :: assigned starred rest

/-- The parameters of a text that is a parameter list but for the order of its defaults. -/
def parameters? (text : List Char) : Option (List ShownParameter) :=
  match ofText? text with
  | none => none
  | some parts =>
    if parts.all isSound && decide (parts.filterMap name?).Nodup &&
      areArranged .plain false true (parts.map bare) then some (assigned false parts)
    else none

end Part

section

variable {labels : Labels} {ps rest : ParameterList} {p : Parameter Value} {v : Value} {text : List Char}

def Parameter.bare (p : Parameter Value) : Parameter Value := { p with default := none }

/-- What a parameter list shows of a parameter. -/
def Parameter.shown (labels : Labels) (p : Parameter Value) : ShownParameter where
  name := p.name
  kind := p.kind
  default := if p.kind.isExtra then none else p.writtenDefault? labels

namespace Value

/-- Plain data, or a value without a literal text. -/
def IsLiteralOrDropped (labels : Labels) (v : Value) : Prop :=
  v.IsPlain ∧ v.isProper = true ∨ v.literal? labels = .ok none

namespace IsPlain

theorem every {p : Value → Bool} (hv : v.IsPlain) (hp : ∀ v, v.IsPlain → p v = true) :
    v.every p = true := by
  induction hv with
  | list h ih => exact every_iff.mpr ⟨hp _ (.list h), ih⟩
  | tuple h ih => exact every_iff.mpr ⟨hp _ (.tuple h), ih⟩
  | set h ih => exact every_iff.mpr ⟨hp _ (.set h), ih⟩
  | dict hk hv ihk ihv =>
    refine every_iff.mpr ⟨hp _ (.dict hk hv), fun w hw => ?_⟩
    obtain ⟨⟨key, value⟩, he, rfl | rfl⟩ := mem_contents_entries.mp hw
    · exact ihk _ he
    · exact ihv _ he
  | null => exact every_iff.mpr ⟨hp _ .null, nofun⟩
  | bool b => exact every_iff.mpr ⟨hp _ (.bool b), nofun⟩
  | int n => exact every_iff.mpr ⟨hp _ (.int n), nofun⟩
  | float x => exact every_iff.mpr ⟨hp _ (.float x), nofun⟩
  | complex re im => exact every_iff.mpr ⟨hp _ (.complex re im), nofun⟩
  | str s => exact every_iff.mpr ⟨hp _ (.str s), nofun⟩
  | bytes data => exact every_iff.mpr ⟨hp _ (.bytes data), nofun⟩

theorem isKnownPart (hv : v.IsPlain) : v.isKnownPart labels = true := by
  cases hv <;> rfl

theorem isHandled_of_container {f : Failure} {depth : Nat} (h : print labels depth v = .error f)
    (hpos : 0 < v.nesting)
    (hcontents : ∀ w ∈ v.contents, ∀ {f depth}, print labels depth w = .error f → f.isHandled = true) :
    f.isHandled = true := by
  rcases exists_contents_of_print hpos h with ⟨-, rfl⟩ | ⟨d, -, w, hw, hprint⟩
  · rfl
  · exact hcontents w hw hprint

/-- Plain data are printed unless they are too large, which is handled. -/
theorem isHandled_of_print {f : Failure} {depth : Nat} (hv : v.IsPlain)
    (h : print labels depth v = .error f) : f.isHandled = true := by
  induction hv generalizing depth f with
  | null | float | complex | str | bytes =>
    rw [print] at h
    cases h
  | bool b => cases b <;> rw [print] at h <;> cases h
  | int n =>
    rw [print, printInt] at h
    split at h <;> cases h
    rfl
  | list _ ih => exact isHandled_of_container h (Nat.succ_pos _) ih
  | tuple _ ih => exact isHandled_of_container h (Nat.succ_pos _) ih
  | set _ ih => exact isHandled_of_container h (Nat.succ_pos _) ih
  | dict _ _ ihk ihv =>
    refine isHandled_of_container h (Nat.succ_pos _) fun w hw => ?_
    obtain ⟨e, he, rfl | rfl⟩ := mem_contents_entries.mp hw
    · exact ihk e he
    · exact ihv e he

/-- Asking for the literal text of plain data gives a text or none. -/
theorem isOk_literal? (hv : v.IsPlain) (hp : v.isProper = true) :
    ∃ text?, v.literal? labels = .ok text? := by
  cases h : v.literal? labels with
  | ok text? => exact ⟨text?, rfl⟩
  | error f =>
    obtain ⟨hprinted, hf⟩ := (literal?_eq_error.mp h).of_known (hv.every fun _ hv => hv.isKnownPart) hp
    cases (hv.isHandled_of_print hprinted).symm.trans hf

end IsPlain

namespace IsLiteralOrDropped

theorem isOk_literal? (h : v.IsLiteralOrDropped labels) : ∃ text?, v.literal? labels = .ok text? := by
  rcases h with ⟨hv, hp⟩ | h
  · exact hv.isOk_literal? hp
  · exact ⟨none, h⟩

theorem standsAlone (h : v.IsLiteralOrDropped labels) : v.StandsAlone labels := by
  rcases h with ⟨hv, -⟩ | h
  · exact hv.standsAlone
  · intro text ht
    cases h.symm.trans ht

end IsLiteralOrDropped
end Value

namespace ParameterList

/-- A slash is written if and only if there is a parameter for positional arguments alone. -/
theorem slash_mem_partList {star : Bool} :
    .slash ∈ partList labels star ps ↔ ∃ p ∈ ps, p.kind = .positionalOnly := by
  induction ps generalizing star with
  | nil => simp [partList]
  | cons p rest ih =>
    rw [partList, List.mem_append, List.mem_cons, List.mem_append, ih]
    constructor
    · rintro (h | h | h | ⟨q, hq, hk⟩)
      · revert h
        split <;> simp
      · rw [Parameter.part] at h
        split at h <;> cases h
      · split at h
        · rename_i hends
          exact ⟨p, List.mem_cons_self, kind_of_endsPositionalOnly hends⟩
        · cases h
      · exact ⟨q, List.mem_cons_of_mem p hq, hk⟩
    · rintro ⟨q, hq, hk⟩
      cases hends : endsPositionalOnly p rest with
      | true => simp
      | false =>
        refine .inr (.inr (.inr ?_))
        rcases List.mem_cons.mp hq with rfl | hq
        · -- what does not end the run is followed by another one of it
          cases rest with
          | nil => simp [endsPositionalOnly, hk] at hends
          | cons next rest =>
            exact ⟨next, List.mem_cons_self, by simpa [endsPositionalOnly, hk] using hends⟩
        · exact ⟨q, hq, hk⟩

theorem assigned_mark (starred b : Bool) (parts : List Part) :
    Part.assigned starred ((if b then [.slash] else []) ++ parts) = Part.assigned starred parts := by
  cases b <;> rfl

theorem part_eq_plain (h : p.kind.isExtra = false) :
    p.part labels = .plain p.name.toList (p.shown labels).default := by
  rw [part_of_not_isExtra h, Parameter.shown, h, if_neg Bool.false_ne_true]

/-- In the order of a definition a slash comes behind a positional parameter exactly if it is for positional
arguments alone. -/
theorem slash_behind_iff (hk : KindsInOrder (p :: rest)) (hp : p.kind.isPositional = true) :
    .slash ∈ (if endsPositionalOnly p rest then [.slash] else []) ++ partList labels false rest ↔
      p.kind = .positionalOnly := by
  obtain ⟨hbefore, -⟩ := List.pairwise_cons.mp hk
  have hlist : .slash ∈ partList labels false (p :: rest) ↔ _ := slash_mem_partList
  rw [partList_positional hp, List.mem_cons, or_iff_right nofun] at hlist
  rw [hlist]
  constructor
  · rintro ⟨q, hq, hqk⟩
    rcases List.mem_cons.mp hq with rfl | hq
    · exact hqk
    · have hle := hbefore q hq
      rw [hqk] at hle
      revert hle
      cases p.kind <;> decide
  · exact fun hkind => ⟨p, List.mem_cons_self, hkind⟩

/-- The marks between the parts tell the kinds of parameters in the order of a definition. -/
theorem assigned_partList {star : Bool} (hk : ps.KindsInOrder)
    (hstar : star = true → ∀ p ∈ ps, 3 ≤ p.kind.place) :
    Part.assigned star (partList labels star ps) = ps.map (·.shown labels) := by
  induction ps generalizing star with
  | nil => rfl
  | cons p rest ih =>
    have hrest : KindsInOrder rest := (List.pairwise_cons.mp hk).2
    have hbehind (hp : 2 ≤ p.kind.place) : Part.assigned true (partList labels true rest) =
        rest.map (·.shown labels) :=
      ih hrest fun _ => hk.place_behind hp
    have hplace (h : star = true) : 3 ≤ p.kind.place := hstar h p List.mem_cons_self
    cases hkind : p.kind with
    | positionalOnly | positionalOrKeyword =>
      obtain rfl : star = false := by
        cases star with
        | false => rfl
        | true => exact absurd (hplace rfl) (by rw [hkind]; decide)
      have hp : p.kind.isPositional = true := by rw [hkind]; rfl
      have hlater : Part.assigned false (partList labels false rest) = rest.map (·.shown labels) :=
        ih hrest nofun
      rw [partList_positional hp, Part.assigned, assigned_mark, hlater]
      simp [slash_behind_iff hk hp, hkind, Parameter.shown, ParameterKind.isExtra]
    | extraPositional =>
      obtain rfl : star = false := by
        cases star with
        | false => rfl
        | true => exact absurd (hplace rfl) (by rw [hkind]; decide)
      have hlater := hbehind (by rw [hkind]; decide)
      simp [partList, endsPositionalOnly, hkind, Parameter.part, Part.assigned, hlater, Parameter.shown,
        ParameterKind.isExtra]
    | keywordOnly =>
      have hpart : p.part labels = _ := part_eq_plain (by rw [hkind]; rfl)
      have hlater := hbehind (by rw [hkind]; decide)
      cases star <;>
        simp [partList, endsPositionalOnly, hkind, hpart, Part.assigned, hlater, Parameter.shown]
    | extraKeyword =>
      have hlater : Part.assigned star (partList labels star rest) = rest.map (·.shown labels) :=
        ih hrest fun h q hq => hstar h q (List.mem_cons_of_mem p hq)
      simp [partList, endsPositionalOnly, hkind, Parameter.part, Part.assigned, hlater, Parameter.shown,
        ParameterKind.isExtra]

/-- Parameters without their defaults are written as their parts without theirs. -/
theorem map_bare_partList {star : Bool} :
    (partList labels star ps).map Part.bare = partList labels star (ps.map Parameter.bare) := by
  induction ps generalizing star with
  | nil => rfl
  | cons p rest ih =>
    have hpart : (p.part labels).bare = p.bare.part labels := by
      cases hk : p.kind <;> simp [Parameter.part, Parameter.bare, hk] <;> rfl
    have hkind : p.bare.kind = p.kind := rfl
    have hends : endsPositionalOnly p.bare (rest.map Parameter.bare) = endsPositionalOnly p rest := by
      cases rest <;> rfl
    simp only [partList, List.map_cons, List.map_append, hkind, hends, hpart, ih]
    congr 1
    · split <;> rfl
    · congr 2
      split <;> rfl

/-- But for the order of defaults, what parameters are written as is what a definition may have. -/
theorem areArranged_bare (hk : ps.KindsInOrder) :
    Part.areArranged .plain false true ((partList labels false ps).map Part.bare) = true := by
  have hkinds : KindsInOrder (ps.map Parameter.bare) := List.pairwise_map.mpr hk
  have hdefaults : KeepsDefaults labels (ps.map Parameter.bare) :=
    List.pairwise_map.mpr (hk.imp fun _ _ _ h => absurd h Bool.false_ne_true)
  rw [map_bare_partList]
  exact (areArranged_iff (.inl rfl) hkinds fun h => absurd h.symm Bool.false_ne_true).mpr
    ⟨fun h => (by cases h), hdefaults⟩

theorem isOk_text (hd : ∀ p ∈ ps, ∀ v ∈ p.default, v.IsLiteralOrDropped labels) :
    ∃ text, ParameterList.text labels ps = .ok text := by
  cases h : ParameterList.text labels ps with
  | ok text => exact ⟨text, rfl⟩
  | error f =>
    obtain ⟨before, p, after, v, rfl, -, hv, hfails⟩ := text_eq_error.mp h
    obtain ⟨text?, htext?⟩ :=
      (hd p (List.mem_append_right _ List.mem_cons_self) v hv.2).isOk_literal?
    cases (Value.literal?_eq_error.mpr hfails).symm.trans htext?

/-- The parameters are read from their text. -/
theorem parameters?_of_text (hs : IsSignature ps)
    (hd : ∀ p ∈ ps, ∀ v ∈ p.default, v.IsLiteralOrDropped labels)
    (htext : ParameterList.text labels ps = .ok text) :
    Part.parameters? text = some (ps.map (·.shown labels)) := by
  have hnamed : ∀ p ∈ ps, Text.isDeclarable (String.ofList p.name.toList) = true := fun p hp => by
    rw [String.ofList_toList]
    exact hs.declarable p hp
  have hdefaults : ∀ p ∈ ps, ∀ text ∈ p.writtenDefault? labels,
      Scan.Passes [] text ∧ (Literal.read text).isOk = true := by
    intro p hp text ht
    obtain ⟨v, hv, ht⟩ := Parameter.exists_of_writtenDefault? ht
    exact ⟨(hd p hp v hv).standsAlone text ht, Value.isOk_of_literal? ht⟩
  have hsound := forall_mem_partList (N := fun name => Text.isDeclarable (String.ofList name) = true)
    hnamed hdefaults
  have hparts : Part.ofText? text = some (partList labels false ps) := by
    rw [text_eq htext]
    exact Part.ofText?_commas fun part hp =>
      ⟨(hsound part hp).1, fun text ht => ((hsound part hp).2 text ht).1⟩
  have hall : (partList labels false ps).all Part.isSound = true := by
    refine List.all_eq_true.mpr fun part hp => ?_
    rw [Part.isSound, Bool.and_eq_true, Option.all_eq_true, Option.all_eq_true]
    exact ⟨(hsound part hp).1, fun text ht => ((hsound part hp).2 text ht).2⟩
  have hnodup : ((partList labels false ps).filterMap Part.name?).Nodup := by
    have hmap : ps.map (·.name.toList) = (ps.map (·.name)).map String.toList := by
      rw [List.map_map]
      rfl
    rw [filterMap_name?_partList, hmap]
    exact hs.distinct.map fun _ _ => String.toList_inj.mp
  have hassigned : Part.assigned false (partList labels false ps) = ps.map (·.shown labels) :=
    assigned_partList hs.kinds fun h => absurd h Bool.false_ne_true
  rw [Part.parameters?, hparts]
  simp only [hall, hnodup, areArranged_bare hs.kinds, hassigned, decide_true, Bool.and_self, if_true]

/-- The parameters of a signature whose defaults are plain data, or have no literal text, are written as a
text from which they are read back: the names in order, the kinds, and the default that each is written
with. Another such list with the same text has the same of all of these. -/
theorem text_determines_parameters (hs : IsSignature ps)
    (hd : ∀ p ∈ ps, ∀ v ∈ p.default, v.IsLiteralOrDropped labels) :
    ∃ text, ParameterList.text labels ps = .ok text ∧
      Part.parameters? text = some (ps.map (·.shown labels)) ∧
      ∀ other qs, IsSignature qs → (∀ q ∈ qs, ∀ v ∈ q.default, v.IsLiteralOrDropped other) →
        ParameterList.text other qs = .ok text →
          qs.map (·.shown other) = ps.map (·.shown labels) := by
  obtain ⟨text, htext⟩ := isOk_text hd
  have hread := parameters?_of_text hs hd htext
  refine ⟨text, htext, hread, fun other qs hqs hqd hqtext => ?_⟩
  exact Option.some.inj ((parameters?_of_text hqs hqd hqtext).symm.trans hread)

/-- Marks tell the kinds, whatever the defaults hold. -/
theorem text_determines_marked :
    let labels := Labels.plain "0x7f0000000000"
    let ps : ParameterList := [
      { name := "path", kind := .positionalOnly },
      { name := "mode", kind := .positionalOnly, default := some (.str "/, *") },
      { name := "tags", default := some (.tuple [.str "a, b", .null]) },
      { name := "limit", kind := .keywordOnly, default := some (.custom (.str "<sentinel>")) },
      { name := "rest", kind := .extraKeyword }]
    Part.parameters? "path, mode='/, *', /, tags=('a, b', None), *, limit, **rest".toList =
      some (ps.map (·.shown labels)) := by
  intro labels ps
  have hstr (s : String) : (Value.str s).IsLiteralOrDropped labels := .inl ⟨.str s, rfl⟩
  have htuple : (Value.tuple [.str "a, b", .null]).IsLiteralOrDropped labels :=
    .inl ⟨.tuple (List.forall_mem_cons.mpr ⟨.str _, List.forall_mem_cons.mpr ⟨.null, nofun⟩⟩), rfl⟩
  have hdropped : (Value.custom (.str "<sentinel>")).IsLiteralOrDropped labels :=
    .inr (by decide +kernel)
  have hd : ∀ p ∈ ps, ∀ v ∈ p.default, v.IsLiteralOrDropped labels := by
    simp [ps, hstr, htuple, hdropped]
  have hs : IsSignature ps := ⟨by decide, by decide, by decide⟩
  obtain ⟨text, htext, hread, -⟩ := text_determines_parameters hs hd
  have hshown : ParameterList.text labels ps =
      .ok "path, mode='/, *', /, tags=('a, b', None), *, limit, **rest".toList := by decide +kernel
  obtain rfl := Except.ok.inj (hshown.symm.trans htext)
  exact hread

end ParameterList
end
end MacroStubs
