import MacroStubs.Literal.Grammar

/-! # Grades of expressions

What is read at a grade is read at every looser one too, if nothing behind it goes on at these grades.
-/

namespace MacroStubs.Literal
open Token

variable {n : Nat} {ts rest : List Token} {e : Expression}

theorem expression_succ (n : Nat) (g : Grade) :
    expression (n + 1) g = ofGrade (expression n) g := rfl

/-- A chain of one operand, whose end the sign does not take. -/
theorem chain_of_operand {sign : Reader String} {operand : Reader Expression}
    {join : String → Expression → Expression → Expression} {ts behind : List Token} {e : Expression}
    (ho : operand ts = some (e, behind)) (hs : sign behind = none) :
    chain sign operand join ts = some (e, behind) := by
  have hm : ∀ m, operands sign operand join m e behind = some (e, behind) := by
    intro m
    cases m <;> simp [operands, hs]
  simp [chain, ho, hm]

/-- Whether the tokens behind an expression begin with a symbol that ends it at every grade. -/
def Closed : List Token → Prop
  | symbol s :: _ => s ∈ [",", ")", "]", "\x7d", ":", ""]
  | _ => False

/-- Whether tokens begin like a name, a constant or something in brackets. -/
def IsOperand : List Token → Prop
  | number _ :: _ => True
  | quotation _ :: _ => True
  | name _ :: _ => True
  | symbol s :: _ => s ∈ ["None", "True", "False", "(", "[", "\x7b"]
  | _ => False

/-- Whether tokens begin like an operand or a sign before one. -/
def IsItem : List Token → Prop
  | symbol s :: rest => s = "-" ∨ IsOperand (symbol s :: rest)
  | ts => IsOperand ts

theorem IsOperand.isItem (h : IsOperand ts) : IsItem ts := by
  unfold IsItem
  split
  · exact .inr h
  · exact h

theorem Closed.exists (h : Closed rest) : ∃ s more, rest = symbol s :: more ∧
    s ∈ [",", ")", "]", "\x7d", ":", ""] := by
  unfold Closed at h
  split at h
  · exact ⟨_, _, rfl, h⟩
  · cases h

theorem symbolOf_eq_none {texts : List String} {s : String} (h : s ∉ texts) (more : List Token) :
    symbolOf texts (symbol s :: more) = none := by
  simp [symbolOf, h]

theorem Closed.symbolOf (h : Closed rest) (texts : List String)
    (ht : ∀ s ∈ [",", ")", "]", "\x7d", ":", ""], s ∉ texts) : symbolOf texts rest = none := by
  obtain ⟨s, more, rfl, hs⟩ := h.exists
  exact symbolOf_eq_none (ht s hs) more

theorem Closed.expect (h : Closed rest) (text : String)
    (ht : text ∉ [",", ")", "]", "\x7d", ":", ""]) : expect text rest = none := by
  obtain ⟨s, more, rfl, hs⟩ := h.exists
  have hne : s ≠ text := fun h => ht (h ▸ hs)
  simp [Literal.expect, hne]

theorem Closed.comparisonSign (h : Closed rest) : comparisonSign rest = none := by
  have hsymbol := h.symbolOf ["==", "!=", "<", "<=", ">", ">=", "in", "is"] (by decide)
  unfold Literal.comparisonSign
  split
  · simp [Closed] at h
  · simp [Closed] at h
  · exact hsymbol

theorem IsItem.expect (h : IsItem ts) (text : String)
    (ht : text ∉ ["-", "None", "True", "False", "(", "[", "\x7b"]) : expect text ts = none := by
  unfold Literal.expect
  split
  · rename_i s rest
    have hne : s ≠ text := by
      rintro rfl
      exact ht (List.mem_cons.mpr h)
    rw [if_neg hne]
  · rfl

section
variable {read : Grade → Reader Expression}

theorem IsOperand.factor_eq (h : IsOperand ts) : factor read ts = read .power ts := by
  unfold factor
  split
  · simp [IsOperand] at h
  · simp [IsOperand] at h
  · simp [IsOperand] at h
  · rfl

theorem IsItem.inversion_eq (h : IsItem ts) : inversion read ts = read .comparison ts := by
  unfold inversion
  split
  · simp [IsItem, IsOperand] at h
  · rfl

theorem IsItem.whole_eq (h : IsItem ts) (hd : read .disjunction ts = some (e, rest))
    (hrest : Closed rest) : whole read ts = some (e, rest) := by
  unfold whole
  split
  · simp [IsItem, IsOperand] at h
  · simp [hd, hrest.expect]

end

/-- A primary without a power is a factor. -/
theorem factor_of_primary (h : expression (n + 1) .primary ts = some (e, rest)) (hts : IsOperand ts)
    (hrest : expect "**" rest = none) : expression (n + 3) .factor ts = some (e, rest) := by
  rw [expression_succ, ofGrade, hts.factor_eq, expression_succ, ofGrade, power,
    hts.isItem.expect _ (by decide)]
  simp [h, hrest]

/-- A sum is an expression of any looser grade. -/
theorem whole_of_sum (h : expression (n + 1) .sum ts = some (e, rest)) (hts : IsItem ts)
    (hrest : Closed rest) : expression (n + 10) .whole ts = some (e, rest) := by
  have hshifted : expression (n + 2) .shifted ts = _ := chain_of_operand h (hrest.symbolOf _ (by decide))
  have hcommon : expression (n + 3) .common ts = _ := chain_of_operand hshifted (hrest.symbolOf _ (by decide))
  have hexclusive : expression (n + 4) .exclusive ts = _ :=
    chain_of_operand hcommon (hrest.symbolOf _ (by decide))
  have halternative : expression (n + 5) .alternative ts = _ :=
    chain_of_operand hexclusive (hrest.symbolOf _ (by decide))
  have hcomparison : expression (n + 6) .comparison ts = _ :=
    chain_of_operand halternative hrest.comparisonSign
  have hinversion : expression (n + 7) .inversion ts = some (e, rest) := by
    rw [expression_succ, ofGrade, hts.inversion_eq, hcomparison]
  have hconjunction : expression (n + 8) .conjunction ts = _ :=
    chain_of_operand hinversion (hrest.symbolOf _ (by decide))
  have hdisjunction : expression (n + 9) .disjunction ts = _ :=
    chain_of_operand hconjunction (hrest.symbolOf _ (by decide))
  exact hts.whole_eq hdisjunction hrest

/-- A factor without further operands is a sum. -/
theorem sum_of_factor (h : expression (n + 1) .factor ts = some (e, rest)) (hrest : Closed rest) :
    expression (n + 3) .sum ts = some (e, rest) := by
  have hproduct : expression (n + 2) .product ts = _ := chain_of_operand h (hrest.symbolOf _ (by decide))
  exact chain_of_operand hproduct (hrest.symbolOf _ (by decide))

theorem whole_of_factor (h : expression (n + 1) .factor ts = some (e, rest)) (hts : IsItem ts)
    (hrest : Closed rest) : expression (n + 12) .whole ts = some (e, rest) :=
  whole_of_sum (n := n + 2) (sum_of_factor h hrest) hts hrest

theorem whole_of_primary (h : expression (n + 1) .primary ts = some (e, rest)) (hts : IsOperand ts)
    (hrest : Closed rest) : expression (n + 14) .whole ts = some (e, rest) :=
  whole_of_factor (n := n + 2) (factor_of_primary h hts (hrest.expect _ (by decide))) hts.isItem hrest

/-- Whether the tokens behind an operand begin with a symbol that belongs to no trailer. -/
def Behind : List Token → Prop
  | symbol s :: _ => s ∈ ["+", "-", ",", ")", "]", "\x7d", ":", ""]
  | _ => False

theorem Closed.behind (h : Closed rest) : Behind rest := by
  obtain ⟨s, more, rfl, hs⟩ := h.exists
  exact List.mem_cons_of_mem "+" (List.mem_cons_of_mem "-" hs)

theorem trailers_of_behind (read : Grade → Reader Expression) (hrest : Behind rest) (m : Nat)
    (e : Expression) : trailers read m e rest = some (e, rest) := by
  cases m with
  | zero => rfl
  | succ m =>
    unfold trailers
    split
    · simp [Behind] at hrest
    · simp [Behind] at hrest
    · simp [Behind] at hrest
    · simp [Behind] at hrest
    · simp [Behind] at hrest
    · rfl

/-- An atom without trailers is a primary. -/
theorem primary_of_atom (h : atom (expression n) ts = some (e, rest)) (hrest : Behind rest) :
    expression (n + 1) .primary ts = some (e, rest) := by
  rw [expression_succ, ofGrade, primary, h]
  exact trailers_of_behind _ hrest _ e

end MacroStubs.Literal
