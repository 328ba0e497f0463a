import MacroStubs.Proofs.Parameters.Parts

/-! # Order of parameters

Parameters in the order of their kinds are written as parts that a definition may have, if and only if
no positional one is written without a default behind one that is written with a default.
-/

namespace MacroStubs

namespace ParameterKind

/-- The place of a kind in a definition. -/
def place : ParameterKind → Nat
  | positionalOnly => 0
  | positionalOrKeyword => 1
  | extraPositional => 2
  | keywordOnly => 3
  | extraKeyword => 4

/-- Whether a parameter of one kind may stand somewhere before one of another. There is one for extra
positional arguments at most, and one for extra keyword arguments. -/
def mayPrecede (k later : ParameterKind) : Prop :=
  k.place < later.place ∨ k = later ∧ k.isExtra = false

instance (k later : ParameterKind) : Decidable (k.mayPrecede later) :=
  inferInstanceAs (Decidable (_ ∨ _))

/-- Only parameters that keyword arguments reach stand behind a star. -/
theorem place_of_mayPrecede {k later : ParameterKind} (hk : 2 ≤ k.place) (h : k.mayPrecede later) :
    3 ≤ later.place := by
  cases k <;> cases later <;> revert h hk <;> decide

theorem isPositional_iff {k : ParameterKind} : k.isPositional = true ↔ k.place < 2 := by
  cases k <;> decide

end ParameterKind

namespace ParameterList

variable {labels : Labels} {ps rest : ParameterList} {p : Parameter Value}
variable {state : Literal.Parameters} {found mayEnd : Bool}

/-- The kinds of the parameters stand in the order of a definition. -/
def KindsInOrder (ps : ParameterList) : Prop :=
  ps.Pairwise fun p q => p.kind.mayPrecede q.kind

/-- Behind a positional parameter that is written with a default each one is. -/
def KeepsDefaults (labels : Labels) (ps : ParameterList) : Prop :=
  ps.Pairwise fun p q => p.kind.isPositional = true → q.kind.isPositional = true →
    (p.writtenDefault? labels).isSome = true → (q.writtenDefault? labels).isSome = true

instance (ps : ParameterList) : Decidable ps.KindsInOrder :=
  inferInstanceAs (Decidable (List.Pairwise _ _))

instance (ps : ParameterList) : Decidable (KeepsDefaults labels ps) :=
  inferInstanceAs (Decidable (List.Pairwise _ _))

namespace KindsInOrder

/-- Only parameters that keyword arguments reach come behind one that is not positional. -/
theorem place_behind (hk : KindsInOrder (p :: rest)) (hp : 2 ≤ p.kind.place) :
    ∀ q ∈ rest, 3 ≤ q.kind.place := fun q hq =>
  ParameterKind.place_of_mayPrecede hp ((List.pairwise_cons.mp hk).1 q hq)

/-- Nothing comes behind the parameter for extra keyword arguments. -/
theorem eq_nil_of_extraKeyword (hk : KindsInOrder (p :: rest)) (hp : p.kind = .extraKeyword) :
    rest = [] := by
  refine List.eq_nil_iff_forall_not_mem.mpr fun q hq => ?_
  have h := (List.pairwise_cons.mp hk).1 q hq
  rw [hp] at h
  cases hq : q.kind <;> rw [hq] at h <;> exact absurd h (by decide)

/-- Behind the last parameter for positional arguments alone there is no other one. -/
theorem ne_of_endsPositionalOnly (hk : KindsInOrder rest) (he : endsPositionalOnly p rest = true) :
    ∀ q ∈ rest, q.kind ≠ .positionalOnly := by
  rw [endsPositionalOnly, Bool.and_eq_true] at he
  cases rest with
  | nil => exact List.forall_mem_nil _
  | cons next rest =>
    have hnext : next.kind ≠ .positionalOnly := by simpa using he.2
    refine List.forall_mem_cons.mpr ⟨hnext, fun q hq hqk => ?_⟩
    -- kinds only rise from the next parameter on
    have hle := (List.pairwise_cons.mp hk).1 q hq
    rw [hqk] at hle
    revert hle hnext
    cases next.kind <;> decide

end KindsInOrder

/-- A parameter that a name can reach is written with that name. -/
theorem part_of_not_isExtra (h : p.kind.isExtra = false) :
    p.part labels = .plain p.name.toList (p.writtenDefault? labels) := by
  rw [Parameter.part]
  cases hk : p.kind <;> rw [hk] at h <;> first | rfl | cases h

/-- Nothing stands in the way of parameters behind a star. -/
theorem areArranged_behind_star (hk : ps.KindsInOrder) (hp : ∀ p ∈ ps, 3 ≤ p.kind.place) :
    Part.areArranged .keywords found mayEnd (partList labels true ps) = true := by
  induction ps generalizing found with
  | nil => rfl
  | cons p rest ih =>
    obtain ⟨hplace, hrest⟩ := List.forall_mem_cons.mp hp
    cases hkind : p.kind with
    | positionalOnly | positionalOrKeyword | extraPositional =>
      rw [hkind] at hplace
      exact absurd hplace (by decide)
    | keywordOnly =>
      have hpart : p.part labels = .plain p.name.toList (p.writtenDefault? labels) :=
        part_of_not_isExtra (by rw [hkind]; rfl)
      have hlist : partList labels true (p :: rest) = p.part labels :: partList labels true rest := by
        simp [partList, endsPositionalOnly, hkind]
      rw [hlist, hpart]
      cases p.writtenDefault? labels <;> exact ih (List.pairwise_cons.mp hk).2 hrest
    | extraKeyword =>
      obtain rfl := hk.eq_nil_of_extraKeyword hkind
      simp [partList, endsPositionalOnly, Parameter.part, hkind, Part.areArranged]

/-- A parameter that keyword arguments alone reach comes behind a star. -/
theorem areArranged_keywordOnly (hs : state = .plain ∨ state = .defaults)
    (hkind : p.kind = .keywordOnly) (hk : rest.KindsInOrder)
    (hrest : ∀ q ∈ rest, 3 ≤ q.kind.place) :
    Part.areArranged state found mayEnd (partList labels false (p :: rest)) = true := by
  have hpart : p.part labels = .plain p.name.toList (p.writtenDefault? labels) :=
    part_of_not_isExtra (by rw [hkind]; rfl)
  have hlist : partList labels false (p :: rest) =
      .star :: p.part labels :: partList labels true rest := by
    simp [partList, endsPositionalOnly, hkind]
  have hlater : ∀ found, Part.areArranged .keywords found false (partList labels true rest) = true :=
    fun _ => areArranged_behind_star hk hrest
  rw [hlist, hpart]
  rcases hs with rfl | rfl <;> cases p.writtenDefault? labels <;>
    simp [Part.areArranged, hlater]

/-- A positional parameter needs a default if one with a default came before it. -/
theorem areArranged_plain (hs : state = .plain ∨ state = .defaults) {name : List Char}
    {default : Option (List Char)} {parts : List Part} :
    Part.areArranged state found mayEnd (.plain name default :: parts) = true ↔
      (state = .defaults → default.isSome = true) ∧
        Part.areArranged (if default.isSome then .defaults else state) true mayEnd parts = true := by
  rcases hs with rfl | rfl <;> cases default <;> simp [Part.areArranged]

/-- A slash may stand behind the last positional-only parameter. -/
theorem areArranged_slash (hs : state = .plain ∨ state = .defaults) {parts : List Part} :
    Part.areArranged state true true (.slash :: parts) = Part.areArranged state true false parts := by
  rcases hs with rfl | rfl <;> rfl

/-- A parameter that is not positional and what comes behind it stand in no one's way. -/
theorem areArranged_not_positional (hs : state = .plain ∨ state = .defaults)
    (hk : KindsInOrder (p :: rest)) (hp : 2 ≤ p.kind.place) :
    Part.areArranged state found mayEnd (partList labels false (p :: rest)) = true := by
  have hrest : KindsInOrder rest := (List.pairwise_cons.mp hk).2
  have hplace := hk.place_behind hp
  cases hkind : p.kind with
  | positionalOnly | positionalOrKeyword =>
    rw [hkind] at hp
    exact absurd hp (by decide)
  | keywordOnly => exact areArranged_keywordOnly hs hkind hrest hplace
  | extraPositional =>
    have hstar : Part.areArranged .keywords true false (partList labels true rest) = true :=
      areArranged_behind_star hrest hplace
    rcases hs with rfl | rfl <;>
      simp [partList, endsPositionalOnly, Parameter.part, hkind, Part.areArranged, hstar]
  | extraKeyword =>
    obtain rfl := hk.eq_nil_of_extraKeyword hkind
    rcases hs with rfl | rfl <;>
      simp [partList, endsPositionalOnly, Parameter.part, hkind, Part.areArranged]

/-- A positional parameter is written with its name, and the slash behind it if no later one is for
positional arguments alone. -/
theorem partList_positional (hp : p.kind.isPositional = true) :
    partList labels false (p :: rest) = .plain p.name.toList (p.writtenDefault? labels) ::
      ((if endsPositionalOnly p rest then [.slash] else []) ++ partList labels false rest) := by
  cases hkind : p.kind with
  | positionalOnly | positionalOrKeyword =>
    have hpart : p.part labels = _ := part_of_not_isExtra (by rw [hkind]; rfl)
    simp [partList, hkind, hpart]
  | extraPositional | keywordOnly | extraKeyword =>
    rw [hkind] at hp
    cases hp

theorem kind_of_endsPositionalOnly (he : endsPositionalOnly p rest = true) :
    p.kind = .positionalOnly := by
  rw [endsPositionalOnly, Bool.and_eq_true] at he
  exact of_decide_eq_true he.1

/-- The parts of parameters, given whether a default came before and whether the slash may come. -/
theorem areArranged_iff (hs : state = .plain ∨ state = .defaults) (hk : ps.KindsInOrder)
    (hm : mayEnd = false → ∀ p ∈ ps, p.kind ≠ .positionalOnly) :
    Part.areArranged state found mayEnd (partList labels false ps) = true ↔
      (state = .defaults → ∀ p ∈ ps, p.kind.isPositional = true →
        (p.writtenDefault? labels).isSome = true) ∧ KeepsDefaults labels ps := by
  induction ps generalizing state found mayEnd with
  | nil =>
    refine iff_of_true ?_ ⟨fun _ => List.forall_mem_nil _, .nil⟩
    rcases hs with rfl | rfl <;> rfl
  | cons p rest ih =>
    have hrest : KindsInOrder rest := (List.pairwise_cons.mp hk).2
    rw [KeepsDefaults, List.pairwise_cons]
    by_cases hpos : p.kind.isPositional = true
    · -- the parts behind this one and its slash are arranged as those of the later parameters are
      have hlater (state : Literal.Parameters) (hs : state = .plain ∨ state = .defaults) :
          Part.areArranged state true mayEnd ((if endsPositionalOnly p rest then [.slash] else []) ++
            partList labels false rest) = true ↔
          (state = .defaults → ∀ p ∈ rest, p.kind.isPositional = true →
            (p.writtenDefault? labels).isSome = true) ∧ KeepsDefaults labels rest := by
        cases he : endsPositionalOnly p rest with
        | false => exact ih hs hrest fun hf q hq => hm hf q (List.mem_cons_of_mem p hq)
        | true =>
          obtain rfl : mayEnd = true := by
            cases mayEnd with
            | true => rfl
            | false => exact absurd (kind_of_endsPositionalOnly he) (hm rfl p List.mem_cons_self)
          rw [if_pos rfl, List.singleton_append, areArranged_slash hs]
          exact ih hs hrest fun _ => hrest.ne_of_endsPositionalOnly he
      rw [partList_positional hpos, areArranged_plain hs, List.forall_mem_cons]
      cases hd : (p.writtenDefault? labels).isSome with
      | true =>
        rw [if_pos rfl, hlater _ (.inr rfl)]
        simp only [hpos, forall_const, true_and]
        tauto
      | false =>
        rw [if_neg Bool.false_ne_true, hlater _ hs]
        simp only [hpos, forall_const, Bool.false_eq_true, false_implies, implies_true, true_and,
          imp_false]
        tauto
    · have hplace : 2 ≤ p.kind.place := by
        rw [ParameterKind.isPositional_iff] at hpos
        omega
      have hnone : ∀ q ∈ rest, ¬ q.kind.isPositional = true := by
        intro q hq
        have := hk.place_behind hplace q hq
        rw [ParameterKind.isPositional_iff]
        omega
      refine iff_of_true (areArranged_not_positional hs hk hplace) ⟨fun _ => List.forall_mem_cons.mpr
        ⟨fun h => absurd h hpos, fun q hq h => absurd h (hnone q hq)⟩,
        fun q hq h => absurd h hpos, ?_⟩
      exact List.Pairwise.imp_of_mem (fun ha _ _ h => absurd h (hnone _ ha)) hrest

end ParameterList
end MacroStubs
