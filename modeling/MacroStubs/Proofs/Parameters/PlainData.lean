import MacroStubs.Proofs.Literal.Printed
import MacroStubs.Proofs.Parameters.Parts

/-! # Plain data between commas

The printed form of plain data leaves brackets and quotes as it finds them, so it may stand between
the commas of a parameter list, whatever texts the data hold.
-/

namespace MacroStubs

/-- Plain data: what literals denote. -/
inductive Value.IsPlain : Value → Prop
  | null : IsPlain .null
  | bool (b : Bool) : IsPlain (.bool b)
  | int (n : Int) : IsPlain (.int n)
  | float (x : Binary64) : IsPlain (.float x)
  | complex (re im : Binary64) : IsPlain (.complex re im)
  | str (s : String) : IsPlain (.str s)
  | bytes (data : List UInt8) : IsPlain (.bytes data)
  | list {items : List Value} (h : ∀ v ∈ items, IsPlain v) : IsPlain (.list items)
  | tuple {items : List Value} (h : ∀ v ∈ items, IsPlain v) : IsPlain (.tuple items)
  | set {items : List Value} (h : ∀ v ∈ items, IsPlain v) : IsPlain (.set items)
  | dict {entries : List (Value × Value)} (hk : ∀ e ∈ entries, IsPlain e.1)
      (hv : ∀ e ∈ entries, IsPlain e.2) : IsPlain (.dict entries)

namespace Scan

open Text (quotedChar quotedByte hexDigit hexDigits)

variable {opened t : List Char} {c q : Char}

section Brackets

variable {closing : Char} {pieces : List (List Char)}

/-- What passes within brackets passes together with them. -/
theorem Passes.enclosed (hc : closing? c = some closing) (h : Passes (closing :: opened) t) :
    Passes opened (c :: t ++ [closing]) := by
  have hpair : c = '(' ∧ closing = ')' ∨ c = '[' ∧ closing = ']' ∨ c = '\x7b' ∧ closing = '\x7d' := by
    rw [closing?] at hc
    split at hc
    · exact .inl ⟨‹_›, (Option.some.inj hc).symm⟩
    · split at hc
      · exact .inr (.inl ⟨‹_›, (Option.some.inj hc).symm⟩)
      · split at hc
        · exact .inr (.inr ⟨‹_›, (Option.some.inj hc).symm⟩)
        · cases hc
  have hopen : (code opened).next c = some (code (closing :: opened)) := by
    rcases hpair with ⟨rfl, rfl⟩ | ⟨rfl, rfl⟩ | ⟨rfl, rfl⟩ <;> simp [next, closing?]
  have hclose : (code (closing :: opened)).next closing = some (code opened) := by
    rcases hpair with ⟨rfl, rfl⟩ | ⟨rfl, rfl⟩ | ⟨rfl, rfl⟩ <;> simp [next, closing?]
  rw [Passes, List.cons_append, List.foldlM_cons, hopen, Option.bind_eq_bind, Option.bind_some,
    List.foldlM_append, h, Option.bind_eq_bind, Option.bind_some, List.foldlM_cons, hclose]
  rfl

/-- Commas may stand between pieces within brackets. -/
theorem passes_commas (h : ∀ piece ∈ pieces, Passes (closing :: opened) piece) :
    Passes (closing :: opened) (Value.commas pieces) := by
  induction pieces with
  | nil => rfl
  | cons first later ih =>
    obtain ⟨hfirst, hlater⟩ := List.forall_mem_cons.mp h
    cases later with
    | nil => exact hfirst
    | cons second later =>
      have hcomma : (code (closing :: opened)).next ',' = some (code (closing :: opened)) := by
        simp [next, closing?]
      have hrest : Passes (closing :: opened) (',' :: ' ' :: Value.commas (second :: later)) := by
        rw [Passes, List.foldlM_cons, hcomma]
        exact Passes.cons (c := ' ') (by decide) (ih hlater)
      exact hfirst.append hrest

/-- The comma behind a lone item stands within the brackets too. -/
theorem passes_tupleText (h : ∀ piece ∈ pieces, Passes (')' :: opened) piece) :
    Passes opened (Value.tupleText pieces) := by
  have hcomma : Passes (')' :: opened) [','] := by
    rw [Passes, List.foldlM_cons]
    simp [next, closing?]
  rw [Value.tupleText.eq_def]
  split
  · have hpiece := (h _ List.mem_cons_self).append hcomma
    simpa using hpiece.enclosed (c := '(') rfl
  · exact (passes_commas h).enclosed (c := '(') rfl

end Brackets

section Quotes

/-- Whether a text between quotes ends within them. -/
def Stays (opened : List Char) (q : Char) (t : List Char) : Prop :=
  t.foldlM next (quoted opened q) = some (quoted opened q)

theorem Stays.append {t t' : List Char} (h : Stays opened q t) (h' : Stays opened q t') :
    Stays opened q (t ++ t') := by
  rw [Stays, List.foldlM_append, h]
  exact h'

theorem stays_flatMap {α : Type} {f : α → List Char} {xs : List α}
    (h : ∀ x ∈ xs, Stays opened q (f x)) : Stays opened q (xs.flatMap f) := by
  induction xs with
  | nil => rfl
  | cons x xs ih =>
    obtain ⟨hx, hxs⟩ := List.forall_mem_cons.mp h
    exact hx.append (ih hxs)

/-- A character behind a backslash means nothing. -/
theorem stays_escaped (h : Stays opened q t) : Stays opened q ('\\' :: c :: t) := by
  have hslash : (quoted opened q).next '\\' = some (escaped opened q) := by
    simp [next]
  rw [Stays, List.foldlM_cons, hslash]
  exact h

theorem stays_singleton (hn : c ≠ '\n') (hs : c ≠ '\\') (hq : c ≠ q) : Stays opened q [c] := by
  rw [Stays, List.foldlM_cons, next, if_neg hn, if_neg hs, if_neg hq]
  rfl

theorem stays_hexDigits (hq : Literal.IsQuote q) (width n : Nat) :
    Stays opened q (hexDigits width n) := by
  have hdigit : ∀ k : Fin 16, hexDigit k ≠ '\n' ∧ hexDigit k ≠ '\\' ∧ hexDigit k ≠ '\'' ∧
      hexDigit k ≠ '"' := by decide
  induction width generalizing n with
  | zero => rfl
  | succ width ih =>
    obtain ⟨hn, hs, h₁, h₂⟩ := hdigit ⟨n % 16, Nat.mod_lt n (by decide)⟩
    exact (ih (n / 16)).append
      (stays_singleton hn hs (by rcases hq with rfl | rfl <;> assumption))

theorem stays_quotedChar (hq : Literal.IsQuote q) (c : Char) : Stays opened q (quotedChar q c) := by
  rw [quotedChar]
  split
  · exact stays_escaped rfl
  rename_i hc
  obtain ⟨hcq, hcs⟩ := not_or.mp hc
  split
  · exact stays_escaped rfl
  split
  · exact stays_escaped rfl
  split
  · exact stays_escaped rfl
  split
  · exact stays_singleton ‹_› hcs hcq
  split
  · exact stays_escaped (stays_hexDigits hq 2 _)
  split
  · exact stays_escaped (stays_hexDigits hq 4 _)
  · exact stays_escaped (stays_hexDigits hq 8 _)

theorem stays_quotedByte (hq : Literal.IsQuote q) (b : UInt8) : Stays opened q (quotedByte q b) := by
  rw [quotedByte]
  split
  · exact stays_escaped rfl
  rename_i hc
  obtain ⟨hcq, hcs⟩ := not_or.mp hc
  split
  · exact stays_escaped rfl
  split
  · exact stays_escaped rfl
  split
  · exact stays_escaped rfl
  split
  · exact stays_singleton ‹_› hcs hcq
  · exact stays_escaped (stays_hexDigits hq 2 _)

/-- What stays within quotes passes together with them. -/
theorem passes_of_stays (hq : Literal.IsQuote q) (h : Stays opened q t) :
    Passes opened (q :: t ++ [q]) := by
  have hopen : (code opened).next q = some (quoted opened q) := by
    rcases hq with rfl | rfl <;> simp [next]
  have hclose : (quoted opened q).next q = some (code opened) := by
    rcases hq with rfl | rfl <;> simp [next]
  rw [Passes, List.cons_append, List.foldlM_cons, hopen, Option.bind_eq_bind, Option.bind_some,
    List.foldlM_append, h, Option.bind_eq_bind, Option.bind_some, List.foldlM_cons, hclose]
  rfl

theorem passes_quoted (cs : List Char) : Passes opened (Text.quoted cs) :=
  have hq := Literal.isQuote_quoteFor cs
  passes_of_stays hq (stays_flatMap fun c _ => stays_quotedChar hq c)

theorem passes_quotedBytes (bs : List UInt8) : Passes opened (Text.quotedBytes bs) :=
  have hq := Literal.isQuote_quoteFor (bs.map fun b => Char.ofNat b.toNat)
  .cons (by decide) (passes_of_stays hq (stays_flatMap fun b _ => stays_quotedByte hq b))

end Quotes

section Numbers
open Number

theorem isOrdinary_of_isDigit (h : c.isDigit = true) : isOrdinary c = true := by
  cases ho : isOrdinary c with
  | true => rfl
  | false =>
    rw [isOrdinary, Bool.not_eq_false', List.contains_iff_mem] at ho
    simp only [List.mem_cons, List.not_mem_nil, or_false] at ho
    rcases ho with rfl | rfl | rfl | rfl | rfl | rfl | rfl | rfl | rfl | rfl <;>
      exact absurd h (by decide)

theorem all_toDigits (n : Nat) : (Nat.toDigits 10 n).all isOrdinary = true :=
  List.all_eq_true.mpr fun _ hc =>
    isOrdinary_of_isDigit (Nat.isDigit_of_mem_toDigits (by decide) (by decide) hc)

theorem passes_intText (n : Int) : Passes opened (Value.intText n) := by
  rw [Value.intText]
  split
  · exact .cons (by decide) (passes_of_isOrdinary (all_toDigits _))
  · exact passes_of_isOrdinary (all_toDigits _)

theorem all_digits_shortest (m : Nat) (e : Int) : (shortest m e).digits.all isOrdinary = true := by
  refine List.all_eq_true.mpr fun c hc => ?_
  have hm := List.mem_reverse.mp hc
  exact List.all_eq_true.mp (all_toDigits _) c
    (List.mem_reverse.mp ((List.dropWhile_sublist _).subset hm))

theorem all_exponentText (x : Int) : (exponentText x).all isOrdinary = true := by
  rw [exponentText]
  split <;> split <;> simp [all_toDigits] <;> decide

theorem all_positiveText {d : Digits} (point : Bool) (hd : d.digits.all isOrdinary = true) :
    (positiveText point d).all isOrdinary = true := by
  have hzeros (n : Nat) : (List.replicate n '0').all isOrdinary = true :=
    List.all_eq_true.mpr fun c hc => by rw [List.eq_of_mem_replicate hc]; decide
  have hsub {t : List Char} (h : t.Sublist d.digits) : t.all isOrdinary = true :=
    List.all_eq_true.mpr fun c hc => List.all_eq_true.mp hd c (h.subset hc)
  have hzero : isOrdinary '0' = true := by decide
  have hpoint : isOrdinary '.' = true := by decide
  rw [positiveText]
  split
  · split
    · simp only [List.cons_append, List.all_cons, List.all_append, hzero, hpoint, hzeros, hd,
        Bool.and_self]
    split
    · simp only [List.all_append, hd, hzeros, Bool.true_and]
      cases point <;> decide
    · simp only [List.all_append, List.all_cons, hpoint, hsub (List.take_sublist _ _),
        hsub (List.drop_sublist _ _), Bool.and_self]
  · rw [List.all_append, all_exponentText, Bool.and_true]
    revert hd
    rcases d.digits with _ | ⟨c, _ | ⟨c', rest⟩⟩ <;> intro hd
    · rfl
    · exact hd
    · rw [List.all_cons, Bool.and_eq_true] at hd
      rw [List.all_cons, List.all_cons, hd.1, hpoint, hd.2]
      rfl

theorem all_floatText (point : Bool) (x : Binary64) : (floatText point x).all isOrdinary = true := by
  have hm : (magnitudeText point x).all isOrdinary = true := by
    rw [magnitudeText.eq_def]
    split
    · decide
    · decide
    · cases point <;> decide
    · exact all_positiveText point (all_digits_shortest _ _)
  rw [floatText]
  split
  · rw [List.all_cons, hm]
    decide
  · exact hm

theorem passes_complexText (re im : Binary64) : Passes opened (complexText re im) := by
  have hj : Passes opened ['j'] := passes_of_isOrdinary (by decide)
  rw [complexText]
  split
  · exact (passes_of_isOrdinary (all_floatText false im)).append hj
  · have hsign : (if im.isNegative then [] else ['+']).all isOrdinary = true := by
      split <;> decide
    have hinner : (floatText false re ++ (if im.isNegative then [] else ['+']) ++
        floatText false im ++ ['j']).all isOrdinary = true := by
      simp only [List.all_append, all_floatText, hsign, Bool.true_and]
      decide
    simpa using (passes_of_isOrdinary hinner).enclosed (c := '(') rfl

end Numbers

end Scan

namespace Value
open Scan

variable {labels : Labels} {opened : List Char} {depth : Nat} {v : Value} {text : List Char}

/-- Pieces of a container pass if its items do. -/
theorem passes_of_printItems {items : List Value} {pieces : List (List Char)}
    (hi : ∀ v ∈ items, ∀ {opened depth text}, print labels depth v = .ok text → Passes opened text)
    (h : printItems labels depth items = .ok pieces) : ∀ piece ∈ pieces, Passes opened piece := by
  rw [printItems_eq, mapM_eq_ok] at h
  intro piece hpiece
  obtain ⟨v, hv, hprint⟩ := exists_left_of_mem h hpiece
  exact hi v hv hprint

theorem passes_of_printEntries {entries : List (Value × Value)} {pieces : List (List Char)}
    (hk : ∀ e ∈ entries, ∀ {opened depth text}, print labels depth e.1 = .ok text →
      Passes opened text)
    (hv : ∀ e ∈ entries, ∀ {opened depth text}, print labels depth e.2 = .ok text →
      Passes opened text)
    (h : printEntries labels depth entries = .ok pieces) : ∀ piece ∈ pieces, Passes opened piece := by
  obtain ⟨texts, rfl, htexts⟩ := forall₂_of_printEntries h
  refine List.forall_mem_map.mpr fun p hp => ?_
  obtain ⟨e, he, hkey, hvalue⟩ := exists_left_of_mem htexts hp
  exact (hk e he hkey).append (.cons (by decide) (.cons (by decide) (hv e he hvalue)))

/-- Printed plain data may stand between the commas of a list. -/
theorem IsPlain.passes (hv : v.IsPlain) (h : print labels depth v = .ok text) :
    Passes opened text := by
  induction hv generalizing opened depth text with
  | null =>
    rw [print] at h
    cases h
    exact passes_of_isOrdinary (by decide)
  | bool b =>
    cases b <;> rw [print] at h <;> cases h <;> exact passes_of_isOrdinary (by decide)
  | int n =>
    rw [print, printInt] at h
    split at h
    · cases h
    · cases h
      exact passes_intText n
  | float x =>
    rw [print] at h
    cases h
    exact passes_of_isOrdinary (all_floatText true x)
  | complex re im =>
    rw [print] at h
    cases h
    exact passes_complexText re im
  | str s =>
    rw [print] at h
    cases h
    exact passes_quoted _
  | bytes data =>
    rw [print] at h
    cases h
    exact passes_quotedBytes data
  | list _ ih =>
    obtain ⟨d, pieces, hp, rfl⟩ := exists_pieces_of_print rfl (fun _ => rfl) h
    exact Passes.enclosed (c := '[') rfl (passes_commas (passes_of_printItems ih hp))
  | tuple _ ih =>
    obtain ⟨d, pieces, hp, rfl⟩ := exists_pieces_of_print rfl (fun _ => rfl) h
    exact passes_tupleText (passes_of_printItems ih hp)
  | @set items _ ih =>
    cases items with
    | nil =>
      rw [print] at h
      cases h
      rfl
    | cons v rest =>
      obtain ⟨d, pieces, hp, rfl⟩ := exists_pieces_of_print rfl (fun _ => rfl) h
      exact Passes.enclosed (c := '\x7b') rfl (passes_commas (passes_of_printItems ih hp))
  | dict _ _ ihk ihv =>
    obtain ⟨d, pieces, hp, rfl⟩ := exists_pieces_of_print rfl (fun _ => rfl) h
    exact Passes.enclosed (c := '\x7b') rfl (passes_commas (passes_of_printEntries ihk ihv hp))

end Value
end MacroStubs
