import MacroStubs.Number.Arithmetic
import MacroStubs.Value.Print
import MacroStubs.Proofs.Literal.Reread
import MacroStubs.Proofs.Literal.Spelling

/-! # Printed numbers

The printed form of a number spells an expression that denotes the number, if it is finite. An infinite
double or one that is no number is printed as a name, which denotes nothing.
-/

namespace MacroStubs.Literal
open Number Token Binary64 Expression

variable {x re im : Binary64} {n : Int}

/-- What an expression denotes that was written for a value. -/
def denoted (isLiteral : Bool) (v : Value) : Except Unread Value :=
  if isLiteral then .ok v else .error .malformed

section Whole

/-- The numeral of a whole number. -/
theorem isProper_toDigits {k : Nat} (h : (Nat.toDigits 10 k).length ≤ 4300) :
    Numeral.IsProper { whole := Nat.toDigits 10 k } where
  whole c hc := isDigit_of_mem_toDigits hc
  head := by
    rcases Nat.eq_zero_or_pos k with rfl | hk
    · exact .inl rfl
    · have hne := head_toDigits hk
      obtain ⟨c, rest, hcons⟩ :=
        List.exists_cons_of_ne_nil (List.ne_nil_of_length_pos (Nat.length_toDigits_pos))
      rw [hcons] at hne
      exact .inr ⟨c, rest, hcons, fun hc => hne (congrArg some hc)⟩
  fraction := nofun
  short _ := h

theorem spells_int (h : (Nat.toDigits 10 n.natAbs).length ≤ 4300) :
    ∃ ts e, Spells 0 (Value.intText n) ts e ∧ e.value? = .ok (.int n) := by
  have hterm := isTerm_numeral (isProper_toDigits h)
  have hvalue : natOfDigits (Nat.toDigits 10 n.natAbs) = n.natAbs := natOfDigits_toDigits _
  simp only [Numeral.text, Numeral.isWhole, Option.isNone_none, Bool.and_self, if_true, hvalue, Option.elim,
    List.append_nil] at hterm
  rw [Value.intText]
  split
  · have habs : -(n.natAbs : Int) = n := by omega
    have hvalue : (signed true (.constant (.int n.natAbs))).value? = .ok (.int (-(n.natAbs : Int))) := rfl
    exact ⟨_, _, hterm.signed.spells, by rw [hvalue, habs]⟩
  · have habs : (n.natAbs : Int) = n := by omega
    have hvalue : (constant (.int n.natAbs)).value? = .ok (.int (n.natAbs : Int)) := rfl
    exact ⟨_, _, hterm.plain.spells, by rw [hvalue, habs]⟩

end Whole

section Double

theorem exists_finite (hx : x.isDouble = true) (hfin : x.isFinite = true) :
    ∃ s m e, x = .finite s m e ∧ IsMagnitude m e := by
  cases x with
  | nan => cases hfin
  | infinity s => cases hfin
  | finite s m e => exact ⟨s, m, e, rfl, isMagnitude_of_isDouble hx⟩

/-- The sign before the text of a double. -/
theorem exists_floatText {t : Token} {e : Expression} (point : Bool)
    (h : IsTerm (magnitudeText point x) t e) :
    ∃ ts, IsAddend (floatText point x) ts (if x.isNegative then signed true e else e) := by
  rw [floatText]
  cases x.isNegative with
  | true => exact ⟨_, h.signed⟩
  | false => exact ⟨_, h.plain⟩

/-- A double that is not finite is printed as a name. -/
theorem mem_printedNames (hfin : x.isFinite = false) (point : Bool) :
    magnitudeText point x ∈ printedNames ∧ magnitudeText point x ++ ['j'] ∈ printedNames := by
  cases x with
  | nan =>
    change ['n', 'a', 'n'] ∈ printedNames ∧ ['n', 'a', 'n', 'j'] ∈ printedNames
    decide
  | infinity s =>
    change ['i', 'n', 'f'] ∈ printedNames ∧ ['i', 'n', 'f', 'j'] ∈ printedNames
    decide
  | finite s m e => cases hfin

theorem spells_float (hx : x.isDouble = true) :
    ∃ ts e, Spells 0 (floatText true x) ts e ∧ e.value? = denoted x.isFinite (.float x) := by
  cases hfin : x.isFinite with
  | true =>
    obtain ⟨s, m, e, rfl, hm⟩ := exists_finite hx hfin
    obtain ⟨t, ht, htext, hvalue, hpoint, -⟩ := magnitudeText_eq hm s true
    have hterm := isTerm_numeral ht
    rw [← htext, hpoint rfl, hvalue] at hterm
    obtain ⟨ts, h⟩ := exists_floatText true hterm
    exact ⟨ts, _, h.spells, by cases s <;> rfl⟩
  | false =>
    obtain ⟨ts, h⟩ := exists_floatText true (isTerm_name (mem_printedNames hfin true).1)
    exact ⟨ts, _, h.spells, by cases x.isNegative <;> rfl⟩

/-- The imaginary part of a complex number. -/
theorem exists_imaginary (hx : x.isDouble = true) : ∃ t e, IsTerm (magnitudeText false x ++ ['j']) t e ∧
    e.number? = denoted x.isFinite (.complex (zero false) x.abs) ∧
    e.value? = denoted x.isFinite (.complex (zero false) x.abs) := by
  cases hfin : x.isFinite with
  | true =>
    obtain ⟨s, m, e, rfl, hm⟩ := exists_finite hx hfin
    obtain ⟨t, ht, htext, hvalue, -⟩ := magnitudeText_eq hm s false
    have hterm := isTerm_imaginary ht
    rw [← htext, hvalue] at hterm
    have habs : (Binary64.finite s m e).abs = .finite false m e := by cases s <;> rfl
    rw [habs]
    exact ⟨_, _, hterm, rfl, rfl⟩
  | false => exact ⟨_, _, isTerm_name (mem_printedNames hfin false).2, rfl, rfl⟩

theorem plusZero_finite {s : Bool} {m : Nat} {e : Int} (hm : IsMagnitude m e) :
    plusZero (.finite s m e) = .finite (s && m != 0) m e := by
  rcases Nat.eq_zero_or_pos m with rfl | hpos
  · obtain rfl : e = -1074 := hm.normal.resolve_left (by decide)
    cases s <;> rfl
  · obtain ⟨k, rfl⟩ := Nat.exists_eq_succ_of_ne_zero hpos.ne'
    rw [bne_iff_ne.mpr hpos.ne', Bool.and_true]
    rfl

/-- The real part of a complex number. A zero is written without a point, so that it is read as a whole number
and loses its sign. -/
theorem exists_real (hx : x.isDouble = true) : ∃ ts e, IsAddend (floatText false x) ts e ∧
    (x.isFinite = true → ∃ v, e.signedNumber? = .ok v ∧ real? v = .ok (plusZero x)) ∧
    (x.isFinite = false → e.signedNumber? = .error .malformed) := by
  cases hfin : x.isFinite with
  | true =>
    obtain ⟨s, m, e, rfl, hm⟩ := exists_finite hx hfin
    obtain ⟨t, ht, htext, hvalue, -, hzero, hint⟩ := magnitudeText_eq hm s false
    have hterm := isTerm_numeral ht
    rw [← htext, hvalue] at hterm
    obtain ⟨ts, h⟩ := exists_floatText false hterm
    refine ⟨ts, _, h, fun _ => ?_, nofun⟩
    rw [plusZero_finite hm]
    cases hwhole : t.isWhole with
    | true =>
      obtain ⟨hplain, hsigned⟩ := hint hwhole
      cases s with
      | false =>
        refine ⟨.int (natOfDigits t.whole), rfl, ?_⟩
        rw [real?, hplain]
        rfl
      | true =>
        refine ⟨.int (-natOfDigits t.whole), rfl, ?_⟩
        rw [real?, hsigned]
        rfl
    | false =>
      have hpos : (m != 0) = true := bne_iff_ne.mpr fun h => by
        rw [hzero h] at hwhole
        cases hwhole
      refine ⟨.float (.finite s m e), by cases s <;> rfl, ?_⟩
      rw [real?, hpos, Bool.and_true]
      rfl
  | false =>
    obtain ⟨ts, h⟩ := exists_floatText false (isTerm_name (mem_printedNames hfin false).1)
    exact ⟨ts, _, h, nofun, fun _ => by cases x.isNegative <;> rfl⟩

theorem abs_negate (x : Binary64) : (if x.isNegative then x.abs.negate else x.abs) = x := by
  rcases x with _ | s | ⟨s, m, e⟩
  · rfl
  · cases s <;> rfl
  · cases s <;> rfl

theorem plusZero_plusZero (x : Binary64) : plusZero (plusZero x) = plusZero x := by
  conv_lhs => rw [plusZero]
  split
  · rw [plusZero]
    split
    · rfl
    · rename_i h hzero
      rw [(near_plusZero x).isZero_eq] at h
      exact absurd h hzero
  · rfl

/-- A sum with an imaginary number, whose sign is that of the sum. -/
theorem sum?_imaginary {v : Value} (hv : real? v = .ok (plusZero re)) :
    sum? im.isNegative v (.complex (zero false) im.abs) =
      .ok (.complex (plusZero re) (plusZero im)) := by
  have habs := abs_negate im
  rw [sum?, hv]
  cases hneg : im.isNegative with
  | true =>
    rw [hneg, if_pos rfl] at habs
    rw [habs]
    rfl
  | false =>
    rw [hneg, if_neg Bool.false_ne_true] at habs
    rw [habs]
    conv_rhs => rw [← plusZero_plusZero re]
    rfl

theorem spells_complex (hre : re.isDouble = true) (him : im.isDouble = true) :
    ∃ ts e, Spells 1 (complexText re im) ts e ∧
      e.value? = denoted (re.isFinite && im.isFinite) (.reread (.complex re im)) := by
  obtain ⟨t, e, hterm, hnumber, hvalue⟩ := exists_imaginary him
  have habs := abs_negate im
  rw [complexText, Value.reread]
  split
  · rename_i hzero
    have hfin : re.isFinite = true := by
      obtain ⟨s, e, rfl⟩ := exists_of_isZero (Bool.and_eq_true_iff.mp hzero).1
      rfl
    rw [floatText, hfin, Bool.true_and]
    cases hneg : im.isNegative with
    | true =>
      rw [hneg, if_pos rfl] at habs
      refine ⟨_, _, hterm.signed.spells.mono (by decide), ?_⟩
      rw [value?, signedNumber?, hnumber]
      cases im.isFinite with
      | true =>
        conv_rhs => rw [← habs]
        rfl
      | false => rfl
    | false =>
      rw [hneg, if_neg Bool.false_ne_true] at habs
      exact ⟨_, _, hterm.plain.spells.mono (by decide), by rw [hvalue, habs]⟩
  · obtain ⟨ts, e', hreal, hfinite, hname⟩ := exists_real hre
    have hmagnitude : floatText false im =
        (if im.isNegative then ['-'] else []) ++ magnitudeText false im := by
      rw [floatText]
      split <;> rfl
    have htext : '(' :: floatText false re ++ (if im.isNegative then [] else ['+']) ++ floatText false im ++
        ['j', ')'] = '(' :: (floatText false re ++ (if im.isNegative then '-' else '+') ::
          (magnitudeText false im ++ ['j'])) ++ [')'] := by
      rw [hmagnitude]
      cases im.isNegative <;> simp
    have hsign : ((if im.isNegative then '-' else '+') == '-') = im.isNegative := by
      cases im.isNegative <;> rfl
    have hspells := spells_sum hreal hterm (s := if im.isNegative then '-' else '+')
      (by cases im.isNegative <;> simp)
    rw [← htext, hsign] at hspells
    refine ⟨_, _, hspells, ?_⟩
    cases hfin : re.isFinite with
    | false =>
      rw [value?, hname hfin]
      rfl
    | true =>
      obtain ⟨v, hv, hreal⟩ := hfinite hfin
      rw [value?, hv, hnumber]
      cases im.isFinite with
      | false => rfl
      | true => exact sum?_imaginary hreal

end Double
end MacroStubs.Literal
