/-! # Tables

Pairs in the order in which their keys were first put in. Putting a value under a key that is there
already replaces the value and keeps the place.
-/

namespace MacroStubs

abbrev Table (κ α : Type) := List (κ × α)

namespace Table

variable {κ α : Type} [BEq κ]

def get? (t : Table κ α) (k : κ) : Option α :=
  (t.find? (·.1 == k)).map (·.2)

def has (t : Table κ α) (k : κ) : Bool :=
  t.any (·.1 == k)

def put : Table κ α → κ → α → Table κ α
  | [], k, v => [(k, v)]
  | (k', v') :: rest, k, v => if k' == k then (k', v) :: rest else (k', v') :: put rest k v

def erase (t : Table κ α) (k : κ) : Table κ α :=
  t.filter fun e => !(e.1 == k)

def keys (t : Table κ α) : List κ := t.map (·.1)

/-- The table that results from putting the pairs in one after the other. -/
def ofList (pairs : List (κ × α)) : Table κ α :=
  pairs.foldl (fun t (k, v) => put t k v) []

theorem get?_cons (e : κ × α) (t : Table κ α) (k : κ) :
    get? (e :: t) k = if e.1 == k then some e.2 else get? t k := by
  by_cases h : (e.1 == k) = true
  · simp [get?, h]
  · simp [get?, h]

theorem has_eq_isSome_get? (t : Table κ α) (k : κ) : has t k = (get? t k).isSome := by
  induction t with
  | nil => rfl
  | cons e t ih =>
    rw [get?_cons]
    split
    · next h => simp [has, h]
    · next h => simpa [has, h] using ih

theorem keys_put (t : Table κ α) (k : κ) (v : α) :
    keys (put t k v) = if has t k then keys t else keys t ++ [k] := by
  induction t with
  | nil => rfl
  | cons e t ih =>
    unfold put
    split
    · next h => simp [keys, has, h]
    · next h =>
      have hk : keys (e :: put t k v) = e.1 :: keys (put t k v) := rfl
      have hh : has (e :: t) k = has t k := by simp [has, h]
      rw [hk, ih, hh]
      split <;> rfl

variable [LawfulBEq κ]

theorem get?_put_self (t : Table κ α) (k : κ) (v : α) : get? (put t k v) k = some v := by
  induction t with
  | nil => simp [put, get?_cons]
  | cons e t ih =>
    unfold put
    split
    · next h => simp [get?_cons, h]
    · next h => simpa [get?_cons, h] using ih

theorem get?_put_of_ne (t : Table κ α) {k k' : κ} (v : α) (h : k ≠ k') :
    get? (put t k v) k' = get? t k' := by
  induction t with
  | nil => simp [put, get?, h]
  | cons e t ih =>
    unfold put
    split
    · next he =>
      have hk : e.1 = k := eq_of_beq he
      simp [get?_cons, hk, h]
    · simp only [get?_cons, ih]

end Table
end MacroStubs
