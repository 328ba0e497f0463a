import MacroStubs.Value.Equality
import MacroStubs.Proofs.Number.Rounding
import Mathlib.Data.List.Forall2

/-! # What values hold

Conditions on all parts of a value, and how deep its containers nest. A value is proper if its doubles are
normal forms, and if no two keys of a set or a dictionary are equal.
-/

namespace MacroStubs

section Pairs

variable {α β : Type} {R : α → β → Prop} {xs : List α} {ys : List β}

theorem exists_right_of_mem (h : List.Forall₂ R xs ys) {x : α} (hx : x ∈ xs) : ∃ y ∈ ys, R x y := by
  induction h with
  | nil => cases hx
  | cons hfirst _ ih =>
    rcases List.mem_cons.mp hx with rfl | hx
    · exact ⟨_, List.mem_cons_self, hfirst⟩
    · obtain ⟨y, hy, hr⟩ := ih hx
      exact ⟨y, List.mem_cons_of_mem _ hy, hr⟩

theorem exists_left_of_mem (h : List.Forall₂ R xs ys) {y : β} (hy : y ∈ ys) : ∃ x ∈ xs, R x y :=
  exists_right_of_mem h.flip hy

theorem forall₂_imp_of_mem {S : α → β → Prop} (h : List.Forall₂ R xs ys)
    (himp : ∀ x ∈ xs, ∀ y, R x y → S x y) : List.Forall₂ S xs ys := by
  induction h with
  | nil => exact .nil
  | cons hfirst _ ih =>
    obtain ⟨hx, hxs⟩ := List.forall_mem_cons.mp himp
    exact .cons (hx _ hfirst) (ih hxs)

end Pairs

namespace Table

variable {κ α : Type} [BEq κ] {t : Table κ α} {k : κ}

/-- What is put under a new key comes last. -/
theorem put_eq_append (h : ∀ e ∈ t, (e.1 == k) = false) (v : α) : put t k v = t ++ [(k, v)] := by
  induction t with
  | nil => rfl
  | cons e t ih =>
    obtain ⟨he, ht⟩ := List.forall_mem_cons.mp h
    rw [put, if_neg (by rw [he]; exact Bool.false_ne_true), ih ht]
    rfl

end Table

/-- Whether a double is infinite, no number, or in its only form. -/
def Binary64.isDouble : Binary64 → Bool
  | finite _ m e => decide (m < 2 ^ 53 ∧ -1074 ≤ e ∧ e ≤ 971 ∧ (2 ^ 52 ≤ m ∨ e = -1074))
  | _ => true

theorem Binary64.isMagnitude_of_isDouble {negative : Bool} {m : Nat} {e : Int}
    (h : (finite negative m e).isDouble = true) : IsMagnitude m e := by
  obtain ⟨hbelow, hleast, hgreatest, hnormal⟩ := of_decide_eq_true h
  exact ⟨hbelow, hleast, hgreatest, hnormal⟩

namespace Value

/-- The items, keys and values of a container. -/
def contents : Value → List Value
  | list items => items
  | tuple items => items
  | set items => items
  | frozenset items => items
  | dict entries => entries.flatMap fun e => [e.1, e.2]
  | mappingproxy entries => entries.flatMap fun e => [e.1, e.2]
  | _ => []

theorem mem_contents_entries {entries : List (Value × Value)} {w : Value} :
    (w ∈ entries.flatMap fun e => [e.1, e.2]) ↔ ∃ e ∈ entries, w = e.1 ∨ w = e.2 := by
  simp

theorem sizeOf_lt_of_mem_contents {v w : Value} (h : w ∈ v.contents) : sizeOf w < sizeOf v := by
  have hitems {items : List Value} (h : w ∈ items) : sizeOf w < 1 + sizeOf items :=
    Nat.lt_add_left 1 (List.sizeOf_lt_of_mem h)
  have hentries {entries : List (Value × Value)} (h : w ∈ entries.flatMap fun e => [e.1, e.2]) :
      sizeOf w < 1 + sizeOf entries := by
    obtain ⟨⟨k, e⟩, he, hw⟩ := mem_contents_entries.mp h
    have hlt := List.sizeOf_lt_of_mem he
    have hpair : sizeOf (k, e) = 1 + sizeOf k + sizeOf e := rfl
    rcases hw with rfl | rfl <;> omega
  unfold contents at h
  split at h
  · rw [list.sizeOf_spec]
    exact hitems h
  · rw [tuple.sizeOf_spec]
    exact hitems h
  · rw [set.sizeOf_spec]
    exact hitems h
  · rw [frozenset.sizeOf_spec]
    exact hitems h
  · rw [dict.sizeOf_spec]
    exact hentries h
  · rw [mappingproxy.sizeOf_spec]
    exact hentries h
  · cases h

/-- What holds of a value if it holds of all its contents holds of every value. -/
theorem induction_contents {P : Value → Prop} (h : ∀ v, (∀ w ∈ v.contents, P w) → P v) (v : Value) : P v :=
  h v fun w _ => induction_contents h w
termination_by sizeOf v
decreasing_by exact sizeOf_lt_of_mem_contents ‹_›

section Every

variable (p : Value → Bool)

mutual
/-- Whether a condition holds of a value and of all that it holds. -/
def every : Value → Bool
  | list items => p (list items) && everyItem items
  | tuple items => p (tuple items) && everyItem items
  | set items => p (set items) && everyItem items
  | frozenset items => p (frozenset items) && everyItem items
  | dict entries => p (dict entries) && everyEntry entries
  | mappingproxy entries => p (mappingproxy entries) && everyEntry entries
  | v => p v
def everyItem : List Value → Bool
  | [] => true
  | v :: rest => every v && everyItem rest
def everyEntry : List (Value × Value) → Bool
  | [] => true
  | (k, v) :: rest => every k && every v && everyEntry rest
end

variable {p}

theorem everyItem_eq (items : List Value) : everyItem p items = items.all (every p) := by
  induction items with
  | nil => rfl
  | cons v rest ih => rw [everyItem, ih, List.all_cons]

theorem everyEntry_eq (entries : List (Value × Value)) :
    everyEntry p entries = (entries.flatMap fun e => [e.1, e.2]).all (every p) := by
  induction entries with
  | nil => rfl
  | cons e rest ih =>
    obtain ⟨k, v⟩ := e
    rw [everyEntry, ih]
    simp [Bool.and_assoc]

theorem every_iff {v : Value} :
    every p v = true ↔ p v = true ∧ ∀ w ∈ v.contents, every p w = true := by
  have hitems (items : List Value) : everyItem p items = true ↔ ∀ w ∈ items, every p w = true := by
    rw [everyItem_eq, List.all_eq_true]
  have hentries (entries : List (Value × Value)) : everyEntry p entries = true ↔
      ∀ w ∈ entries.flatMap fun e => [e.1, e.2], every p w = true := by
    rw [everyEntry_eq, List.all_eq_true]
  unfold contents
  split
  · rw [every, Bool.and_eq_true, hitems]
  · rw [every, Bool.and_eq_true, hitems]
  · rw [every, Bool.and_eq_true, hitems]
  · rw [every, Bool.and_eq_true, hitems]
  · rw [every, Bool.and_eq_true, hentries]
  · rw [every, Bool.and_eq_true, hentries]
  · unfold every
    split <;> simp_all

theorem every_mono {q : Value → Bool} (hpq : ∀ v, p v = true → q v = true) (v : Value)
    (h : every p v = true) : every q v = true := by
  induction v using induction_contents with
  | h v ih =>
    obtain ⟨hp, hcontents⟩ := every_iff.mp h
    exact every_iff.mpr ⟨hpq v hp, fun w hw => ih w hw (hcontents w hw)⟩

end Every

mutual
/-- How many containers are nested in a value. -/
def nesting : Value → Nat
  | list items => nestingOf items + 1
  | tuple items => nestingOf items + 1
  | set items => nestingOf items + 1
  | frozenset items => nestingOf items + 1
  | dict entries => nestingOfEntries entries + 1
  | mappingproxy entries => nestingOfEntries entries + 1
  | _ => 0
def nestingOf : List Value → Nat
  | [] => 0
  | v :: rest => max (nesting v) (nestingOf rest)
def nestingOfEntries : List (Value × Value) → Nat
  | [] => 0
  | (k, v) :: rest => max (max (nesting k) (nesting v)) (nestingOfEntries rest)
end

theorem nesting_lt_of_mem_contents {v w : Value} (h : w ∈ v.contents) : w.nesting < v.nesting := by
  have hitems {items : List Value} (h : w ∈ items) : w.nesting < nestingOf items + 1 := by
    induction items with
    | nil => cases h
    | cons v rest ih =>
      rw [nestingOf]
      rcases List.mem_cons.mp h with rfl | h
      · omega
      · have := ih h
        omega
  have hentries {entries : List (Value × Value)} (h : w ∈ entries.flatMap fun e => [e.1, e.2]) :
      w.nesting < nestingOfEntries entries + 1 := by
    induction entries with
    | nil => cases h
    | cons e rest ih =>
      obtain ⟨k, v⟩ := e
      rw [nestingOfEntries]
      rw [List.flatMap_cons, List.mem_append, List.mem_cons, List.mem_singleton] at h
      rcases h with (rfl | rfl) | h
      · omega
      · omega
      · have := ih h
        omega
  unfold contents at h
  split at h
  · exact hitems h
  · exact hitems h
  · exact hitems h
  · exact hitems h
  · exact hentries h
  · exact hentries h
  · cases h

/-- Whether no two of some keys are equal. -/
def isDistinct : List Value → Bool
  | [] => true
  | k :: rest => rest.all (fun k' => !same k k' && !same k' k) && isDistinct rest

theorem isDistinct_cons {k : Value} {rest : List Value} : isDistinct (k :: rest) = true ↔
    (∀ k' ∈ rest, same k k' = false ∧ same k' k = false) ∧ isDistinct rest = true := by
  rw [isDistinct, Bool.and_eq_true, List.all_eq_true]
  simp

/-- The set of distinct items holds them all. -/
theorem setOf_eq {items : List Value} (h : isDistinct items = true) : setOf items = items := by
  have hfold (found : List Value) (hnew : ∀ x ∈ items, ∀ y ∈ found, same x y = false) :
      items.foldl (fun xs x => if xs.any (same x) then xs else xs ++ [x]) found = found ++ items := by
    induction items generalizing found with
    | nil => rw [List.foldl_nil, List.append_nil]
    | cons x rest ih =>
      obtain ⟨hx, hrest⟩ := isDistinct_cons.mp h
      obtain ⟨hxnew, hrestnew⟩ := List.forall_mem_cons.mp hnew
      have hany : ¬ found.any (same x) = true := by simpa using hxnew
      rw [List.foldl_cons, if_neg hany, ih hrest]
      · rw [List.append_assoc, List.singleton_append]
      · intro y hy z hz
        rcases List.mem_append.mp hz with hz | hz
        · exact hrestnew y hy z hz
        · rw [List.mem_singleton.mp hz]
          exact (hx y hy).2
  exact hfold [] fun _ _ => nofun

/-- The dictionary of entries with distinct keys holds them all. -/
theorem dictOf_eq {entries : List (Value × Value)} (h : isDistinct (entries.map (·.1)) = true) :
    dictOf entries = entries := by
  have hfold (found : List (Value × Value)) (hnew : ∀ e ∈ entries, ∀ d ∈ found, same d.1 e.1 = false) :
      entries.foldl (fun t (k, v) => Table.put t k v) found = found ++ entries := by
    induction entries generalizing found with
    | nil => rw [List.foldl_nil, List.append_nil]
    | cons e rest ih =>
      obtain ⟨k, v⟩ := e
      rw [List.map_cons] at h
      obtain ⟨he, hrest⟩ := isDistinct_cons.mp h
      obtain ⟨henew, hrestnew⟩ := List.forall_mem_cons.mp hnew
      have hput : Table.put found k v = found ++ [(k, v)] := Table.put_eq_append henew v
      rw [List.foldl_cons]
      dsimp only
      rw [hput, ih hrest]
      · rw [List.append_assoc, List.singleton_append]
      · intro d hd e' he'
        rcases List.mem_append.mp he' with he' | he'
        · exact hrestnew d hd e' he'
        · rw [List.mem_singleton.mp he']
          exact (he d.1 (List.mem_map_of_mem hd)).1
  exact hfold [] fun _ _ => nofun

/-- Whether the doubles of a value are in their only form, and its keys are distinct and can be keys. -/
def isProperPart : Value → Bool
  | float x => x.isDouble
  | complex re im => re.isDouble && im.isDouble
  | set items => items.all isHashable && isDistinct items
  | dict entries => (entries.map (·.1)).all isHashable && isDistinct (entries.map (·.1))
  | _ => true

/-- Whether literals denote values of a kind. -/
def isLiteralPart : Value → Bool
  | null => true
  | bool _ => true
  | int _ => true
  | float x => x.isFinite
  | complex re im => re.isFinite && im.isFinite
  | str _ => true
  | bytes _ => true
  | list _ => true
  | tuple _ => true
  | set _ => true
  | dict _ => true
  | _ => false

/-- Whether a value is plain data through and through. -/
def isLiteral (v : Value) : Bool := v.every isLiteralPart

/-- Whether a value is what a program can hold: each part of it is proper. -/
def isProper (v : Value) : Bool := v.every isProperPart

end Value
end MacroStubs
