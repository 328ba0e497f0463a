import MacroStubs.Literal.Reader
import MacroStubs.Proofs.Literal.Grade

/-! # Lone quotations

A text that is one plain quotation and nothing else reads as what the quotation denotes. What stands
behind the closing quotes cannot open another quotation.
-/

namespace MacroStubs.Literal

variable {cs rest : List Char} {c : Char} {q : Quotation} {v : Value}

def IsQuote (c : Char) : Prop := c = '"' ∨ c = '\''

theorem body?_escaped (quote : Char) (triple : Bool) (c : Char) (rest : List Char) :
    body? quote triple ('\\' :: c :: rest) =
      (body? quote triple rest).map fun found => ('\\' :: c :: found.1, found.2) := rfl

theorem body?_closed (rest : List Char) : body? '"' true ('"' :: '"' :: '"' :: rest) = some ([], rest) := rfl

theorem body?_plain {quote d e : Char} (hb : c ≠ '\\') (hq : ¬ (c = quote ∧ d = quote ∧ e = quote)) :
    body? quote true (c :: d :: e :: rest) =
      (body? quote true (d :: e :: rest)).map fun found => (c :: found.1, found.2) := by
  rw [body?.eq_3 _ _ _ _ _ _ fun _ _ hc => absurd hc hb]
  by_cases hc : c = quote
  · have hde : ¬ (d = quote ∧ e = quote) := fun h => hq ⟨hc, h⟩
    rw [if_pos hc, if_neg (by decide)]
    exact if_neg hde
  · rw [if_neg hc, if_neg fun h => h.2 rfl]

theorem charOf_toNat (c : Char) : charOf c.toNat = c := by
  have hc : Nat.isValidChar c.toNat := c.valid
  rw [charOf, if_pos hc, Char.ofNat_toNat]

theorem mark?_of_quote (hc : IsQuote c) (rest : List Char) :
    mark? (c :: rest) = some ({}, c :: rest) := by
  have hl : ((c :: rest).take 3).takeWhile Char.isAlpha = [] := by
    rcases hc with rfl | rfl <;> rfl
  have hq : c = '"' ∨ c = '\'' := hc
  simp only [mark?, hl, List.length_nil, List.drop_zero, if_pos hq]
  rfl

theorem tokenRead?_of_quote (hc : IsQuote c) (rest : List Char) :
    Token.read? (c :: rest) =
      (Quotation.read? (c :: rest)).map fun (q, r) => (.quotation q, r) := by
  have hd : Number.isDigit c = false := by rcases hc with rfl | rfl <;> rfl
  have hp : (c == '.') = false := by rcases hc with rfl | rfl <;> rfl
  simp [Token.read?, hd, hp, mark?_of_quote hc]

theorem skip_of_quote (hc : IsQuote c) (inside : Bool) (rest : List Char) :
    skip inside (c :: rest) = some (c :: rest) := by
  rcases hc with rfl | rfl <;> simp [skip, skipFrom]

theorem lineStart_of_quote (hc : IsQuote c) (rest : List Char) :
    lineStart (c :: rest) = some (c :: rest) := by
  rcases hc with rfl | rfl <;> simp [lineStart, lineStartFrom]

theorem lineFeeds_eq_self (h : '\r' ∉ cs) : Text.lineFeeds cs = cs := by
  fun_induction Text.lineFeeds cs with
  | case1 => rfl
  | case2 rest ih => simp at h
  | case3 rest _ ih => simp at h
  | case4 c rest _ _ ih =>
    rw [ih fun hr => h (List.mem_cons_of_mem _ hr)]

/-- A quotation in front of other tokens outside of brackets. -/
theorem tokensFrom?_of_quotation (hc : IsQuote c) {n : Nat} {read : List Token} {r : List Char}
    (hq : Quotation.read? (c :: rest) = some (q, r)) :
    tokensFrom? (n + 1) [] read (c :: rest) = tokensFrom? n [] (.quotation q :: read) r := by
  have hn : c ≠ '\n' := by rcases hc with rfl | rfl <;> decide
  rw [tokensFrom?]
  simp only [List.isEmpty_nil, Bool.not_true, skip_of_quote hc, Option.bind_eq_bind,
    Option.bind_some, tokenRead?_of_quote hc, hq, Token.brackets?, Option.map_some]
  simp [hn]

theorem tokens?_of_quotation (hc : IsQuote c)
    (hq : Quotation.read? (c :: rest) = some (q, [])) :
    tokens? (c :: rest) = some [.quotation q] := by
  have ht : tokensFrom? ((c :: rest).length + 1) [] [] (c :: rest) = some ([.quotation q], []) := by
    rw [tokensFrom?_of_quotation hc hq, List.length_cons, tokensFrom?]
    simp [skip, skipFrom]
  simp only [tokens?, lineStart_of_quote hc, Option.bind_eq_bind, Option.bind_some, ht]

/-- Quotes that nothing closes are no tokens, whatever quotation stands before them. -/
theorem tokens?_of_open_quote (hc : IsQuote c) {d : Char} {behind : List Char} (hd : IsQuote d)
    (hq : Quotation.read? (c :: rest) = some (q, d :: behind))
    (hb : Quotation.read? (d :: behind) = none) :
    tokens? (c :: rest) = none := by
  have hn : d ≠ '\n' := by rcases hd with rfl | rfl <;> decide
  have ht : tokensFrom? ((c :: rest).length + 1) [] [] (c :: rest) = none := by
    rw [tokensFrom?_of_quotation hc hq, List.length_cons, tokensFrom?]
    simp [skip_of_quote hd, tokenRead?_of_quote hd, hb, hn]
  simp only [tokens?, lineStart_of_quote hc, Option.bind_eq_bind, Option.bind_some, ht,
    Option.bind_none]

/-- The empty symbol ends a quotation, whatever grade is read. -/
theorem expression_of_quotation (hf : q.mark.formatted = false) (hj : joined? [q] = some v)
    (n : Nat) :
    expression (n + 14) .whole [.quotation q, .symbol ""] = some (.constant v, [.symbol ""]) := by
  have hend : Closed [.symbol ""] := by simp [Closed]
  have hatom : atom (expression n) [.quotation q, .symbol ""] =
      some (.constant v, [.symbol ""]) := by
    simp [atom, quoted, quotations, hf, hj]
  exact whole_of_primary (primary_of_atom hatom hend.behind) trivial hend

theorem wholeExpression?_of_quotation (hf : q.mark.formatted = false) (hj : joined? [q] = some v)
    (n : Nat) : wholeExpression? n [.quotation q] = some (.constant v) := by
  have hd : nestingFor n = (16 * n + 2) + 14 := rfl
  rw [wholeExpression?, hd]
  simp [itemsUntil, expect, expression_of_quotation hf hj]

/-- A text that is one plain quotation reads as what the quotation denotes. -/
theorem read_of_quotation (hc : IsQuote c) (hnul : '\x00' ∉ c :: rest) (hcr : '\r' ∉ c :: rest)
    (hq : Quotation.read? (c :: rest) = some (q, [])) (hf : q.mark.formatted = false)
    (hj : joined? [q] = some v) :
    read (c :: rest) = .ok v := by
  have hb : (c :: rest).dropWhile (fun c => c = ' ' || c = '\t') = c :: rest := by
    rcases hc with rfl | rfl <;> rfl
  have hs : isShallow [.quotation q] = true := by
    simp [isShallow, Depth.next, Depth.attempt, firstSteps, leafSteps, quotationSteps, maxSteps]
  have he : expression? (c :: rest) = some (.constant v) := by
    simp [expression?, hnul, hb, lineFeeds_eq_self hcr, tokens?_of_quotation hc hq, hs,
      wholeExpression?_of_quotation hf hj]
  simp only [read, he, Expression.value?]
  rfl

/-- A text reads as nothing if quotes that nothing closes follow its first quotation. -/
theorem read_of_open_quote (hc : IsQuote c) {d : Char} {behind : List Char} (hd : IsQuote d)
    (hcr : '\r' ∉ c :: rest) (hq : Quotation.read? (c :: rest) = some (q, d :: behind))
    (hb : Quotation.read? (d :: behind) = none) :
    read (c :: rest) = .error .malformed := by
  have hw : (c :: rest).dropWhile (fun c => c = ' ' || c = '\t') = c :: rest := by
    rcases hc with rfl | rfl <;> rfl
  have he : expression? (c :: rest) = none := by
    simp [expression?, hw, lineFeeds_eq_self hcr, tokens?_of_open_quote hc hd hq hb]
  simp only [read, he]
  rfl

end MacroStubs.Literal
