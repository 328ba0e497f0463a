import MacroStubs.Proofs.Literal.RoundTrip
import MacroStubs.Proofs.Number.Range

/-! # Numbers too large for a literal

When asking for the literal text of a value fails: if printing it ends in an exit, and if its text adds an
imaginary number to a whole number beyond all doubles, which is found from the left in front of anything
that is no plain data.
-/

namespace MacroStubs

namespace Expression

/-- Whether the plain data of an expression, found from the left, lead to an imaginary number that is
added to a whole number beyond all doubles. -/
inductive Exceeds : Expression → Prop
  | sum {negative : Bool} {left right : Expression} {n : Int} {re im : Binary64}
      (hl : left.signedNumber? = .ok (.int n)) (hr : right.number? = .ok (.complex re im))
      (hn : Binary64.bound ≤ n.natAbs) : Exceeds (.sum negative left right)
  | tuple {before after : List Expression} {e : Expression}
      (hb : ∀ b ∈ before, ∃ v, b.value? = .ok v) (he : Exceeds e) :
      Exceeds (.tuple (before ++ e :: after))
  | list {before after : List Expression} {e : Expression}
      (hb : ∀ b ∈ before, ∃ v, b.value? = .ok v) (he : Exceeds e) :
      Exceeds (.list (before ++ e :: after))
  | set {before after : List Expression} {e : Expression}
      (hb : ∀ b ∈ before, ∃ v, b.value? = .ok v ∧ v.isHashable = true) (he : Exceeds e) :
      Exceeds (.set (before ++ e :: after))
  | key {before after : List (Expression × Expression)} {k e : Expression}
      (hb : ∀ b ∈ before, ∃ key v, b.1.value? = .ok key ∧ b.2.value? = .ok v ∧ key.isHashable = true)
      (hk : Exceeds k) : Exceeds (.dict (before ++ (k, e) :: after))
  | item {before after : List (Expression × Expression)} {k e : Expression}
      (hb : ∀ b ∈ before, ∃ key v, b.1.value? = .ok key ∧ b.2.value? = .ok v ∧ key.isHashable = true)
      (hk : ∃ key, k.value? = .ok key) (he : Exceeds e) : Exceeds (.dict (before ++ (k, e) :: after))

section Numbers

variable {e left right : Expression} {l r : Value}

theorem number?_ne_tooLarge : e.number? ≠ .error .tooLarge := by
  unfold number?
  split <;> exact fun h => by cases h

theorem signedNumber?_ne_tooLarge : e.signedNumber? ≠ .error .tooLarge := by
  intro h
  unfold signedNumber? at h
  split at h
  · rcases bind_eq_error.mp h with h | ⟨v, -, h⟩
    · exact number?_ne_tooLarge h
    · cases h
  · exact number?_ne_tooLarge h

/-- A sum is too large if its real part is a whole number that no double is near. -/
theorem sum?_eq_tooLarge {negative : Bool} : sum? negative l r = .error .tooLarge ↔
    ∃ n re im, l = .int n ∧ r = .complex re im ∧ Binary64.bound ≤ n.natAbs := by
  have hreal : real? l = .error .tooLarge ↔ ∃ n, l = .int n ∧ Binary64.bound ≤ n.natAbs := by
    unfold real?
    split
    · rename_i n
      simp only [← not_lt, ← Binary64.isFinite_ofInt_iff, Value.int.injEq, exists_eq_left']
      split
      · rename_i hfinite
        exact iff_of_false (fun h => by cases h) fun h => h hfinite
      · rename_i hinfinite
        exact iff_of_true rfl hinfinite
    · exact iff_of_false (fun h => by cases h) fun ⟨_, h, _⟩ => by cases h
    · rename_i hint _
      exact iff_of_false (fun h => by cases h) fun ⟨n, h, _⟩ => hint n h
  unfold sum?
  split
  · rename_i re im
    rw [bind_eq_error, hreal]
    constructor
    · rintro (⟨n, rfl, hn⟩ | ⟨_, -, h⟩)
      · exact ⟨n, re, im, rfl, rfl, hn⟩
      · split at h <;> cases h
    · rintro ⟨n, _, _, rfl, -, hn⟩
      exact .inl ⟨n, rfl, hn⟩
  · rename_i hcomplex
    refine iff_of_false (fun h => by cases h) ?_
    rintro ⟨_, re, im, -, rfl, -⟩
    exact hcomplex re im rfl

theorem value?_sum_eq_tooLarge {negative : Bool} : (sum negative left right).value? = .error .tooLarge ↔
    ∃ n re im, left.signedNumber? = .ok (.int n) ∧ right.number? = .ok (.complex re im) ∧
      Binary64.bound ≤ n.natAbs := by
  simp only [value?, bind_eq_error, signedNumber?_ne_tooLarge, number?_ne_tooLarge, false_or,
    sum?_eq_tooLarge]
  constructor
  · rintro ⟨l, hl, r, hr, n, re, im, rfl, rfl, hn⟩
    exact ⟨n, re, im, hl, hr, hn⟩
  · rintro ⟨n, re, im, hl, hr, hn⟩
    exact ⟨_, hl, _, hr, n, re, im, rfl, rfl, hn⟩

end Numbers

section Displays

/-- What a list, a set or a dictionary takes to go on behind an item: in a set and a dictionary the item
or its key can be a key. -/
def checked {α : Type} (isKey : Bool) (a : α) : Except Unread α :=
  if isKey then pure a else throw .malformed

theorem checked_eq_ok {α : Type} {isKey : Bool} {a b : α} :
    checked isKey a = .ok b ↔ isKey = true ∧ a = b := by
  cases isKey <;> simp [checked, pure, Except.pure, throw, throwThe, MonadExceptOf.throw]

theorem checked_ne_tooLarge {α : Type} {isKey : Bool} {a : α} : checked isKey a ≠ .error .tooLarge := by
  cases isKey <;> simp [checked, pure, Except.pure, throw, throwThe, MonadExceptOf.throw]

/-- The value of an item of a set. -/
def key? (e : Expression) : Except Unread Value := do
  let v ← e.value?
  checked v.isHashable v

/-- The key and the value of an entry of a dictionary. -/
def entry? (e : Expression × Expression) : Except Unread (Value × Value) := do
  let key ← e.1.value?
  let v ← e.2.value?
  checked key.isHashable (key, v)

theorem values?_eq_mapM (es : List Expression) : values? es = es.mapM value? := by
  induction es with
  | nil => rfl
  | cons e rest ih => rw [values?, List.mapM_cons, ih]

theorem keys?_eq_mapM (es : List Expression) : keys? es = es.mapM key? := by
  induction es with
  | nil => rfl
  | cons e rest ih =>
    rw [keys?, List.mapM_cons, ih, key?, bind_assoc]
    congr 1
    funext v
    rw [checked]
    split <;> rfl

theorem entries?_eq_mapM (es : List (Expression × Expression)) : entries? es = es.mapM entry? := by
  induction es with
  | nil => rfl
  | cons e rest ih =>
    obtain ⟨k, e⟩ := e
    rw [entries?, List.mapM_cons, ih, entry?, bind_assoc]
    congr 1
    funext key
    rw [bind_assoc]
    congr 1
    funext v
    rw [checked]
    split <;> rfl

theorem key?_isOk_iff {e : Expression} : (∃ v, e.key? = .ok v) ↔
    ∃ v, e.value? = .ok v ∧ v.isHashable = true := by
  simp [key?, bind_eq_ok, checked_eq_ok]

theorem key?_eq_tooLarge {e : Expression} :
    e.key? = .error .tooLarge ↔ e.value? = .error .tooLarge := by
  simp [key?, bind_eq_error, checked_ne_tooLarge]

theorem entry?_isOk_iff {e : Expression × Expression} : (∃ v, entry? e = .ok v) ↔
    ∃ key v, e.1.value? = .ok key ∧ e.2.value? = .ok v ∧ key.isHashable = true := by
  simp only [ entry?, bind_eq_ok, checked_eq_ok]
  constructor
  · rintro ⟨_, key, hk, v, hv, hkey, rfl⟩
    exact ⟨key, v, hk, hv, hkey⟩
  · rintro ⟨key, v, hk, hv, hkey⟩
    exact ⟨_, key, hk, v, hv, hkey, rfl⟩

theorem entry?_eq_tooLarge {e : Expression × Expression} : entry? e = .error .tooLarge ↔
    e.1.value? = .error .tooLarge ∨
      (∃ key, e.1.value? = .ok key) ∧ e.2.value? = .error .tooLarge := by
  simp [ entry?, bind_eq_error, checked_ne_tooLarge]

end Displays

/-- The expressions between the brackets of a display. -/
def items : Expression → List Expression
  | tuple items => items
  | list items => items
  | set items => items
  | dict entries => entries.flatMap fun e => [e.1, e.2]
  | _ => []

theorem sizeOf_lt_of_mem_items {e d : Expression} (h : d ∈ e.items) : sizeOf d < sizeOf e := by
  have hitems {items : List Expression} (h : d ∈ items) : sizeOf d < 1 + sizeOf items :=
    Nat.lt_add_left 1 (List.sizeOf_lt_of_mem h)
  cases e with
  | tuple items =>
    rw [tuple.sizeOf_spec]
    exact hitems h
  | list items =>
    rw [list.sizeOf_spec]
    exact hitems h
  | set items =>
    rw [set.sizeOf_spec]
    exact hitems h
  | dict entries =>
    obtain ⟨⟨k, v⟩, he, hd⟩ := List.mem_flatMap.mp h
    have hlt := List.sizeOf_lt_of_mem he
    have hpair : sizeOf (k, v) = 1 + sizeOf k + sizeOf v := rfl
    rw [dict.sizeOf_spec]
    rcases List.mem_pair.mp hd with rfl | rfl <;> omega
  | constant | name | emptySet | signed | sum | part | starred | other => cases h

/-- What holds of an expression if it holds of all its items holds of every expression. -/
theorem induction_items {P : Expression → Prop} (h : ∀ e, (∀ d ∈ e.items, P d) → P e) (e : Expression) :
    P e :=
  h e fun d _ => induction_items h d
termination_by sizeOf e
decreasing_by exact sizeOf_lt_of_mem_items ‹_›

theorem exceeds_of_value? {e : Expression} (h : e.value? = .error .tooLarge) : e.Exceeds := by
  induction e using induction_items with
  | h e ih =>
    cases e with
    | tuple items | list items =>
      rw [value?, bind_eq_error, values?_eq_mapM, mapM_eq_error] at h
      rcases h with ⟨before, e, after, rfl, hb, he⟩ | ⟨_, -, h⟩
      · constructor
        · exact hb
        · exact ih e (List.mem_append_right _ List.mem_cons_self) he
      · cases h
    | set items =>
      rw [value?, bind_eq_error, keys?_eq_mapM, mapM_eq_error] at h
      rcases h with ⟨before, e, after, rfl, hb, he⟩ | ⟨_, -, h⟩
      · refine .set (fun b hm => key?_isOk_iff.mp (hb b hm)) ?_
        exact ih e (List.mem_append_right _ List.mem_cons_self) (key?_eq_tooLarge.mp he)
      · cases h
    | dict entries =>
      rw [value?, bind_eq_error, entries?_eq_mapM, mapM_eq_error] at h
      rcases h with ⟨before, ⟨k, e⟩, after, rfl, hb, he⟩ | ⟨_, -, h⟩
      · have hb := fun b hm => entry?_isOk_iff.mp (hb b hm)
        have hmem (d : Expression) (hd : d ∈ [k, e]) : d ∈ (dict (before ++ (k, e) :: after)).items :=
          List.mem_flatMap.mpr ⟨(k, e), List.mem_append_right _ List.mem_cons_self, hd⟩
        rcases entry?_eq_tooLarge.mp he with hk | ⟨hk, he⟩
        · exact .key hb (ih k (hmem k List.mem_cons_self) hk)
        · exact .item hb hk (ih e (hmem e (List.mem_pair.mpr (.inr rfl))) he)
      · cases h
    | signed negative operand =>
      rw [value?] at h
      exact absurd h signedNumber?_ne_tooLarge
    | sum negative left right =>
      obtain ⟨n, re, im, hl, hr, hn⟩ := value?_sum_eq_tooLarge.mp h
      exact .sum hl hr hn
    | constant | name | emptySet | part | starred | other => cases h

theorem Exceeds.value?_eq {e : Expression} (h : e.Exceeds) : e.value? = .error .tooLarge := by
  induction h with
  | sum hl hr hn => exact value?_sum_eq_tooLarge.mpr ⟨_, _, _, hl, hr, hn⟩
  | tuple hb he ih | list hb he ih =>
    rw [value?, bind_eq_error, values?_eq_mapM, mapM_eq_error]
    exact .inl ⟨_, _, _, rfl, hb, ih⟩
  | set hb he ih =>
    rw [value?, bind_eq_error, keys?_eq_mapM, mapM_eq_error]
    exact .inl ⟨_, _, _, rfl, fun b hm => key?_isOk_iff.mpr (hb b hm), key?_eq_tooLarge.mpr ih⟩
  | key hb hk ih =>
    rw [value?, bind_eq_error, entries?_eq_mapM, mapM_eq_error]
    exact .inl ⟨_, _, _, rfl, fun b hm => entry?_isOk_iff.mpr (hb b hm),
      entry?_eq_tooLarge.mpr (.inl ih)⟩
  | item hb hk he ih =>
    rw [value?, bind_eq_error, entries?_eq_mapM, mapM_eq_error]
    exact .inl ⟨_, _, _, rfl, fun b hm => entry?_isOk_iff.mpr (hb b hm),
      entry?_eq_tooLarge.mpr (.inr ⟨hk, ih⟩)⟩

end Expression

namespace Value
open Literal

variable {labels : Labels} {v : Value} {f : Failure}

/-- How a value that is a default fails when its literal text is asked for. -/
inductive FailsAsLiteral (labels : Labels) (v : Value) : Failure → Prop
  /-- Printing it ends in an exit, an interrupt or the like. -/
  | printing {f : Failure} (h : printed labels v = .error f) (hf : f.isHandled = false) :
      FailsAsLiteral labels v f
  | reading {text : List Char} {e : Expression} (h : printed labels v = .ok text)
      (he : expression? text = some e) (hx : e.Exceeds) : FailsAsLiteral labels v .intTooLarge

theorem read_eq_tooLarge {text : List Char} :
    read text = .error .tooLarge ↔ ∃ e, expression? text = some e ∧ e.Exceeds := by
  unfold Literal.read
  cases expression? text with
  | none => exact iff_of_false (fun h => by cases h) fun ⟨_, h, _⟩ => by cases h
  | some e =>
    simp only [Option.some.injEq, exists_eq_left']
    exact ⟨Expression.exceeds_of_value?, Expression.Exceeds.value?_eq⟩

theorem literal?_eq_error : literal? labels v = .error f ↔ v.FailsAsLiteral labels f := by
  rw [literal?]
  constructor
  · intro h
    split at h
    · rename_i text hprinted
      split at h
      · cases h
      · cases h
      · rename_i hread
        cases h
        obtain ⟨e, he, hx⟩ := read_eq_tooLarge.mp hread
        exact .reading hprinted he hx
    · rename_i f' hprinted
      split at h
      · cases h
      · rename_i hf
        cases h
        exact .printing hprinted (Bool.eq_false_iff.mpr hf)
  · rintro (⟨hprinted, hf⟩ | ⟨hprinted, he, hx⟩)
    · rw [hprinted]
      dsimp only
      rw [hf, if_neg Bool.false_ne_true]
      rfl
    · rw [hprinted]
      dsimp only
      rw [read_eq_tooLarge.mpr ⟨_, he, hx⟩]
      rfl

/-- The text of a value whose parts are data and objects between angle brackets does not exceed. -/
theorem FailsAsLiteral.of_known (h : v.FailsAsLiteral labels f) (hk : v.every (isKnownPart labels) = true)
    (hp : v.isProper = true) : printed labels v = .error f ∧ f.isHandled = false := by
  cases h with
  | printing h hf => exact ⟨h, hf⟩
  | reading h he hx =>
    have hlarge := read_eq_tooLarge.mpr ⟨_, he, hx⟩
    rcases (written_of_print hk hp h).read_eq_or with hread | hread
    · rw [hlarge, denoted] at hread
      split at hread <;> cases hread
    · rw [hlarge] at hread
      cases hread

end Value

end MacroStubs
