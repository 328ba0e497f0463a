import MacroStubs.Literal.Expression
import MacroStubs.Proofs.Literal.Contents

/-! # What becomes of values that are read back

A value that is printed and read back is the same but for the signs of zeros in complex numbers. It is equal
to the value that it was printed from, has the same class, and can be a key if that can.
-/

namespace MacroStubs

namespace Binary64
open Expression

variable {x y : Binary64}

/-- Whether two doubles differ in the sign of a zero at most. -/
def Near (x y : Binary64) : Prop := x = y ∨ x.isZero = true ∧ y.isZero = true

theorem near_plusZero (x : Binary64) : Near (plusZero x) x := by
  rw [plusZero]
  split
  · exact .inr ⟨rfl, ‹_›⟩
  · exact .inl rfl

theorem exists_of_isZero (h : x.isZero = true) : ∃ s e, x = finite s 0 e := by
  rcases x with _ | _ | ⟨s, _ | m, e⟩
  · cases h
  · cases h
  · exact ⟨s, e, rfl⟩
  · cases h

/-- A zero equals zero only, whatever its sign. -/
theorem isInt_of_isZero (h : x.isZero = true) (n : Int) : x.isInt n = (n == 0) := by
  obtain ⟨s, e, rfl⟩ := exists_of_isZero h
  have hpow (j : Nat) : powTwo j ≠ 0 := (Nat.pow_pos (by decide)).ne'
  cases e with
  | ofNat j => simp [isInt]
  | negSucc j => simp [isInt, hpow]

theorem same_of_isZero (h : x.isZero = true) : x.same y = y.isZero ∧ y.same x = y.isZero := by
  obtain ⟨s, e, rfl⟩ := exists_of_isZero h
  rcases y with _ | _ | ⟨t, _ | n, f⟩ <;> simp [same, isZero]

namespace Near

variable {x' y' : Binary64}

theorem isZero_eq (h : Near x y) : x.isZero = y.isZero := by
  rcases h with rfl | ⟨hx, hy⟩
  · rfl
  · rw [hx, hy]

theorem isInt_eq (h : Near x y) (n : Int) : x.isInt n = y.isInt n := by
  rcases h with rfl | ⟨hx, hy⟩
  · rfl
  · rw [isInt_of_isZero hx, isInt_of_isZero hy]

theorem same_left (h : Near x y) (z : Binary64) : x.same z = y.same z := by
  rcases h with rfl | ⟨hx, hy⟩
  · rfl
  · rw [(same_of_isZero hx).1, (same_of_isZero hy).1]

theorem same_right (h : Near x y) (z : Binary64) : z.same x = z.same y := by
  rcases h with rfl | ⟨hx, hy⟩
  · rfl
  · rw [(same_of_isZero hx).2, (same_of_isZero hy).2]

end Near

theorem same_self (h : x.isFinite = true) : x.same x = true := by
  cases x <;> simp_all [isFinite, same]

end Binary64

namespace Value
open Binary64 Expression

variable {v w : Value}

mutual
/-- What a value is when it has been printed and read back. The real part that is not printed takes the
sign of the imaginary one; other zeros lose theirs when the parts are added. -/
def reread : Value → Value
  | complex re im =>
    if re.isZero && !re.isNegative then complex (.zero im.isNegative) im
    else complex (plusZero re) (plusZero im)
  | list items => list (rereadItems items)
  | tuple items => tuple (rereadItems items)
  | set items => set (rereadItems items)
  | dict entries => dict (rereadEntries entries)
  | v => v
def rereadItems : List Value → List Value
  | [] => []
  | v :: rest => reread v :: rereadItems rest
def rereadEntries : List (Value × Value) → List (Value × Value)
  | [] => []
  | (k, v) :: rest => (reread k, reread v) :: rereadEntries rest
end

theorem rereadItems_eq (items : List Value) : rereadItems items = items.map reread := by
  induction items with
  | nil => rfl
  | cons v rest ih => rw [rereadItems, ih, List.map_cons]

theorem rereadEntries_eq (entries : List (Value × Value)) :
    rereadEntries entries = entries.map fun e => (reread e.1, reread e.2) := by
  induction entries with
  | nil => rfl
  | cons e rest ih => rw [rereadEntries, ih, List.map_cons]

theorem reread_complex (re im : Binary64) : ∃ re' im', (complex re im).reread = complex re' im' ∧
    Near re' re ∧ Near im' im := by
  rw [reread]
  split
  · rename_i hre
    rw [Bool.and_eq_true] at hre
    exact ⟨_, _, rfl, .inr ⟨rfl, hre.1⟩, .inl rfl⟩
  · exact ⟨_, _, rfl, near_plusZero re, near_plusZero im⟩

section Keys

theorem isHashable_tuple (items : List Value) : isHashable (tuple items) = items.all isHashable := by
  rw [isHashable, keyFault?]
  induction items with
  | nil => rfl
  | cons x rest ih =>
    rw [firstKeyFault?, Option.isNone_or, ih]
    rfl

theorem isHashable_reread (v : Value) : v.reread.isHashable = v.isHashable := by
  induction v using induction_contents with
  | h v ih =>
    unfold reread
    split
    · split <;> rfl
    · rfl
    · rename_i items
      have hitems : ∀ x ∈ items, isHashable x.reread = isHashable x := ih
      rw [isHashable_tuple, isHashable_tuple, rereadItems_eq, List.all_map]
      rw [Bool.eq_iff_iff, List.all_eq_true, List.all_eq_true]
      exact forall₂_congr fun x hx => by rw [← hitems x hx]; rfl
    · rfl
    · rfl
    · rfl

theorem same_complex_left (re im : Binary64) (w : Value) :
    same (complex re im) w = sameNumber (complex re im) w := by
  cases w <;> simp [same, identity?]

theorem same_complex_right (v : Value) (re im : Binary64) :
    same v (complex re im) = sameNumber v (complex re im) := by
  cases v <;> simp [same, identity?]

theorem same_tuple_left (xs : List Value) (w : Value) :
    same (tuple xs) w = match w with | tuple ys => sameItems xs ys | _ => false := by
  cases w <;> simp [same, identity?, sameNumber, int?, parts?]

theorem same_tuple_right (v : Value) (ys : List Value) :
    same v (tuple ys) = match v with | tuple xs => sameItems xs ys | _ => false := by
  cases v <;> simp [same, identity?, sameNumber, int?, parts?]

theorem sameNumber_reread (v w : Value) : sameNumber v.reread w.reread = sameNumber v w := by
  have hint (v : Value) : v.reread.int? = v.int? := by
    unfold reread
    split
    · split <;> rfl
    all_goals rfl
  have hparts (v : Value) : v.reread.parts? = v.parts? ∨ ∃ re im re' im', v.parts? = some (re, im) ∧
      v.reread.parts? = some (re', im') ∧ Near re' re ∧ Near im' im := by
    cases v with
    | complex re im =>
      obtain ⟨re', im', h, hre, him⟩ := reread_complex re im
      exact .inr ⟨re, im, re', im', rfl, by rw [h]; rfl, hre, him⟩
    | _ => exact .inl rfl
  unfold sameNumber
  rw [hint, hint]
  rcases hparts v with hv | ⟨re, im, re', im', hv, hv', hre, him⟩ <;>
    rcases hparts w with hw | ⟨re₂, im₂, re₂', im₂', hw, hw', hre₂, him₂⟩
  · rw [hv, hw]
  · rw [hv, hw, hw']
    cases v.int? <;> cases w.int? <;> cases v.parts? <;>
      simp [hre₂.isInt_eq, him₂.isZero_eq, hre₂.same_right, him₂.same_right]
  · rw [hw, hv, hv']
    cases v.int? <;> cases w.int? <;> cases w.parts? <;>
      simp [hre.isInt_eq, him.isZero_eq, hre.same_left, him.same_left]
  · rw [hw, hv, hw', hv']
    cases v.int? <;> cases w.int? <;>
      simp [hre.isInt_eq, him.isZero_eq, hre.same_left, him.same_left, hre₂.isInt_eq, him₂.isZero_eq,
        hre₂.same_right, him₂.same_right]

/-- What a key may be. -/
theorem key_cases (h : v.isHashable = true) : (∃ re im, v = complex re im) ∨ (∃ items, v = tuple items) ∨
    v.reread = v ∧ ∀ items, v ≠ tuple items := by
  cases v with
  | complex re im => exact .inl ⟨re, im, rfl⟩
  | tuple items => exact .inr (.inl ⟨items, rfl⟩)
  | list items => cases h
  | set items => cases h
  | dict entries => cases h
  | _ => exact .inr (.inr ⟨rfl, nofun⟩)

theorem sameItems_reread {xs ys : List Value}
    (h : ∀ x ∈ xs, ∀ y ∈ ys, same x.reread y.reread = same x y) :
    sameItems (rereadItems xs) (rereadItems ys) = sameItems xs ys := by
  induction xs generalizing ys with
  | nil => cases ys <;> simp [rereadItems, sameItems]
  | cons x xs ih =>
    cases ys with
    | nil => simp [rereadItems, sameItems]
    | cons y ys =>
      obtain ⟨hx, hxs⟩ := List.forall_mem_cons.mp h
      rw [rereadItems, rereadItems, sameItems, sameItems, hx y List.mem_cons_self,
        ih fun x hx y hy => hxs x hx y (List.mem_cons_of_mem _ hy)]

/-- Keys that are read back are equal if and only if they were. -/
theorem same_reread (hv : v.isHashable = true) (hw : w.isHashable = true) :
    same v.reread w.reread = same v w := by
  induction v using induction_contents generalizing w with
  | h v ih =>
    rcases key_cases hv with ⟨re, im, rfl⟩ | ⟨xs, rfl⟩ | ⟨hv', hne⟩
    · obtain ⟨re', im', h, -⟩ := reread_complex re im
      rw [same_complex_left, ← sameNumber_reread, h, same_complex_left]
    · rcases key_cases hw with ⟨re, im, rfl⟩ | ⟨ys, rfl⟩ | ⟨hw', hne⟩
      · obtain ⟨re', im', h, -⟩ := reread_complex re im
        rw [same_complex_right, ← sameNumber_reread, h, same_complex_right]
      · rw [isHashable_tuple, List.all_eq_true] at hv hw
        rw [reread, reread, same_tuple_left, same_tuple_left]
        exact sameItems_reread fun x hx y hy => ih x hx (hv x hx) (hw y hy)
      · rw [hw', same_tuple_left, reread, same_tuple_left]
        split
        · exact absurd rfl (hne _)
        · rfl
    · rw [hv']
      rcases key_cases hw with ⟨re, im, rfl⟩ | ⟨ys, rfl⟩ | ⟨hw', -⟩
      · obtain ⟨re', im', h, -⟩ := reread_complex re im
        rw [same_complex_right, ← sameNumber_reread, hv', h, same_complex_right]
      · rw [same_tuple_right, reread, same_tuple_right]
        split
        · exact absurd rfl (hne _)
        · rfl
      · rw [hw']

variable {items : List Value}

theorem isDistinct_reread (hkeys : ∀ k ∈ items, k.isHashable = true) :
    isDistinct (items.map reread) = isDistinct items := by
  induction items with
  | nil => rfl
  | cons k rest ih =>
    obtain ⟨hk, hrest⟩ := List.forall_mem_cons.mp hkeys
    rw [List.map_cons, isDistinct, isDistinct, ih hrest, List.all_map]
    congr 1
    rw [Bool.eq_iff_iff, List.all_eq_true, List.all_eq_true]
    exact forall₂_congr fun k' hk' => by
      rw [Function.comp_apply, same_reread hk (hrest k' hk'), same_reread (hrest k' hk') hk]

/-- A set that is read back holds what is read back of its items. -/
theorem setOf_reread (hkeys : items.all isHashable = true) (h : isDistinct items = true) :
    setOf (items.map reread) = items.map reread :=
  setOf_eq (by rw [isDistinct_reread (List.all_eq_true.mp hkeys), h])

/-- A dictionary that is read back holds what is read back of its entries. -/
theorem dictOf_reread {entries : List (Value × Value)} (hkeys : (entries.map (·.1)).all isHashable = true)
    (h : isDistinct (entries.map (·.1)) = true) :
    dictOf (entries.map fun e => (e.1.reread, e.2.reread)) =
      entries.map fun e => (e.1.reread, e.2.reread) := by
  refine dictOf_eq ?_
  have hmap : (entries.map fun e => (e.1.reread, e.2.reread)).map (·.1) = (entries.map (·.1)).map reread := by
    rw [List.map_map, List.map_map]
    rfl
  rw [hmap, isDistinct_reread (List.all_eq_true.mp hkeys), h]

end Keys

section Likeness

mutual
/-- Whether two values are of the same class and equal, and so are the items of containers, one by one. -/
def alike : Value → Value → Bool
  | list xs, list ys => alikeItems xs ys
  | tuple xs, tuple ys => alikeItems xs ys
  | set xs, set ys => alikeItems xs ys
  | dict xs, dict ys => alikeEntries xs ys
  | v, w => v.builtinClass == w.builtinClass && same v w
def alikeItems : List Value → List Value → Bool
  | [], [] => true
  | x :: xs, y :: ys => alike x y && alikeItems xs ys
  | _, _ => false
def alikeEntries : List (Value × Value) → List (Value × Value) → Bool
  | [], [] => true
  | (k, v) :: xs, (k', v') :: ys => alike k k' && alike v v' && alikeEntries xs ys
  | _, _ => false
end

theorem allIn_iff {xs ys : List Value} :
    allIn xs ys = true ↔ ∀ x ∈ xs, ∃ y ∈ ys, same x y = true := by
  induction xs with
  | nil => simp [allIn]
  | cons x xs ih => rw [allIn, Bool.and_eq_true, ih, List.any_eq_true, List.forall_mem_cons]

theorem allEntriesIn_iff {xs ys : List (Value × Value)} : allEntriesIn xs ys = true ↔
    ∀ e ∈ xs, ∃ d ∈ ys, same e.1 d.1 = true ∧ same e.2 d.2 = true := by
  induction xs with
  | nil => simp [allEntriesIn]
  | cons e xs ih =>
    rw [allEntriesIn, Bool.and_eq_true, ih, List.any_eq_true, List.forall_mem_cons]
    simp only [Bool.and_eq_true]

theorem forall₂_of_alikeItems {xs ys : List Value} (hxs : ∀ x ∈ xs, ∀ {y}, alike x y = true → same x y = true)
    (h : alikeItems xs ys = true) : List.Forall₂ (fun x y => same x y = true) xs ys := by
  induction xs generalizing ys with
  | nil => cases ys <;> simp_all [alikeItems]
  | cons x xs ih =>
    cases ys with
    | nil => simp [alikeItems] at h
    | cons y ys =>
      obtain ⟨hx, hxs⟩ := List.forall_mem_cons.mp hxs
      rw [alikeItems, Bool.and_eq_true] at h
      exact .cons (hx h.1) (ih hxs h.2)

theorem forall₂_of_alikeEntries {xs ys : List (Value × Value)}
    (hxs : ∀ x ∈ xs.flatMap fun e => [e.1, e.2], ∀ {y}, alike x y = true → same x y = true)
    (h : alikeEntries xs ys = true) :
    List.Forall₂ (fun e d => same e.1 d.1 = true ∧ same e.2 d.2 = true) xs ys := by
  induction xs generalizing ys with
  | nil => cases ys <;> simp_all [alikeEntries]
  | cons e xs ih =>
    cases ys with
    | nil => simp [alikeEntries] at h
    | cons d ys =>
      rw [List.flatMap_cons, List.forall_mem_append] at hxs
      obtain ⟨he, hxs⟩ := hxs
      rw [alikeEntries, Bool.and_eq_true, Bool.and_eq_true] at h
      obtain ⟨⟨hk, hv⟩, hlater⟩ := h
      exact .cons ⟨he _ (by simp) hk, he _ (by simp) hv⟩ (ih hxs hlater)

theorem sameItems_of_forall₂ {xs ys : List Value} (h : List.Forall₂ (fun x y => same x y = true) xs ys) :
    sameItems xs ys = true := by
  induction h with
  | nil => simp [sameItems]
  | cons hfirst _ ih => rw [sameItems, hfirst, ih, Bool.and_self]

/-- Values that are alike are equal. -/
theorem same_of_alike (h : alike v w = true) : same v w = true := by
  induction v using induction_contents generalizing w with
  | h v ih =>
    unfold alike at h
    split at h
    · rw [same]
      exact sameItems_of_forall₂ (forall₂_of_alikeItems ih h)
    · rw [same]
      exact sameItems_of_forall₂ (forall₂_of_alikeItems ih h)
    · have hitems := forall₂_of_alikeItems ih h
      rw [same, Bool.and_eq_true, beq_iff_eq]
      exact ⟨hitems.length_eq, allIn_iff.mpr fun x hx => exists_right_of_mem hitems hx⟩
    · have hentries := forall₂_of_alikeEntries ih h
      rw [same, Bool.and_eq_true, beq_iff_eq]
      exact ⟨hentries.length_eq, allEntriesIn_iff.mpr fun e he => exists_right_of_mem hentries he⟩
    · exact (Bool.and_eq_true_iff.mp h).2

theorem alikeItems_reread {xs : List Value} (h : ∀ x ∈ xs, alike x x.reread = true) :
    alikeItems xs (rereadItems xs) = true := by
  induction xs with
  | nil => rfl
  | cons x xs ih =>
    obtain ⟨hx, hxs⟩ := List.forall_mem_cons.mp h
    rw [rereadItems, alikeItems, hx, ih hxs, Bool.and_self]

theorem alikeEntries_reread {xs : List (Value × Value)}
    (h : ∀ x ∈ xs.flatMap fun e => [e.1, e.2], alike x x.reread = true) :
    alikeEntries xs (rereadEntries xs) = true := by
  induction xs with
  | nil => rfl
  | cons e xs ih =>
    rw [List.flatMap_cons, List.forall_mem_append] at h
    obtain ⟨he, hxs⟩ := h
    rw [rereadEntries, alikeEntries, he _ (by simp), he _ (by simp), ih hxs, Bool.and_self, Bool.and_self]

/-- Plain data that are read back are like the data they were. -/
theorem alike_reread (h : v.isLiteral = true) : alike v v.reread = true := by
  induction v using induction_contents with
  | h v ih =>
    obtain ⟨hpart, hcontents⟩ := every_iff.mp h
    have ih : ∀ w ∈ v.contents, alike w w.reread = true := fun w hw => ih w hw (hcontents w hw)
    cases v with
    | list items =>
      rw [reread, alike]
      exact alikeItems_reread ih
    | tuple items =>
      rw [reread, alike]
      exact alikeItems_reread ih
    | set items =>
      rw [reread, alike]
      exact alikeItems_reread ih
    | dict entries =>
      rw [reread, alike]
      exact alikeEntries_reread ih
    | float x =>
      have hx : x.same x = true := same_self hpart
      have hzero : (zero false).same (zero false) = true := rfl
      simp [reread, alike, same, identity?, sameNumber, int?, parts?, hx, hzero]
    | complex re im =>
      obtain ⟨hre, him⟩ := Bool.and_eq_true_iff.mp hpart
      obtain ⟨re', im', h, hre', him'⟩ := reread_complex re im
      have hsame : same (complex re im) (complex re' im') = true := by
        rw [same_complex_left]
        simp [sameNumber, int?, parts?, hre'.same_right, him'.same_right, same_self hre, same_self him]
      simp [h, alike, builtinClass, hsame]
    | null => simp [reread, alike, same]
    | bool b => simp [reread, alike, same, identity?, sameNumber, int?]
    | int n => simp [reread, alike, same, identity?, sameNumber, int?]
    | str s => simp [reread, alike, same]
    | bytes data => simp [reread, alike, same]
    | _ => cases hpart

end Likeness
end Value
end MacroStubs
