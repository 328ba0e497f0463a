import MacroStubs.Proofs.Number.Shortest

/-! # Decimal texts

The text of a double is a numeral. The number that the numeral denotes rounds to the double, so that the
text is read as the double it was written for.
-/

namespace MacroStubs.Number
open Binary64

variable {m n : Nat} {e x : Int} {negative : Bool}

section Rounding

/-- Ratios that round to a positive double are within four hundred places of the point. -/
theorem bounds_of_rounds {r : ℚ} (hm : IsMagnitude m e) (hpos : 0 < m) (hr : Rounds m e r) :
    (10 : ℚ) ^ (-400 : Int) < r ∧ r < 10 ^ (400 : Int) := by
  have hm' : (1 : ℚ) ≤ m := by exact_mod_cast hpos
  have hunit : (0 : ℚ) < 2 ^ e := by positivity
  have htens : (2 : ℚ) ^ (1200 : Int) < 10 ^ (400 : Int) := by
    rw [show (1200 : Int) = 3 * 400 by norm_num, zpow_mul]
    exact zpow_lt_zpow_left₀ (by decide) (by positivity) (by norm_num)
  have hpower {i j : Int} (h : i ≤ j) : (2 : ℚ) ^ i ≤ 2 ^ j :=
    zpow_le_zpow_right₀ (by norm_num) h
  constructor
  · have hlow : (2⁻¹ : ℚ) ≤ r / 2 ^ e := by
      have := hr.low
      split at this <;> linarith
    rw [le_div_iff₀ hunit, ← zpow_neg_one, ← zpow_add₀ (by norm_num)] at hlow
    calc (10 : ℚ) ^ (-400 : Int) < 2 ^ (-1200 : Int) := by
          rw [zpow_neg, zpow_neg]
          exact inv_strictAnti₀ (by positivity) htens
      _ ≤ 2 ^ (-1 + e) := hpower (by have := hm.least; omega)
      _ ≤ r := hlow
  · have hhigh : r / 2 ^ e ≤ 2 ^ (53 : Int) := by
      have := hr.high
      have hle : (m : ℚ) + 1 ≤ 2 ^ 53 := by exact_mod_cast hm.below
      rw [zpow_ofNat]
      linarith
    rw [div_le_iff₀ hunit, ← zpow_add₀ (by norm_num)] at hhigh
    calc r ≤ 2 ^ (53 + e) := hhigh
      _ ≤ 2 ^ (1200 : Int) := hpower (by have := hm.greatest; omega)
      _ < 10 ^ (400 : Int) := htens

/-- A decimal that rounds to a double is read as it: the bound on its places is far beyond all doubles. -/
theorem ofDecimal_eq (hm : IsMagnitude m e) (hpos : 0 < m) (hr : Rounds m e (n * 10 ^ x)) :
    ofDecimal negative n x = finite negative m e := by
  obtain ⟨hlow, hhigh⟩ := bounds_of_rounds hm hpos hr
  have hn : 0 < n := by
    rcases Nat.eq_zero_or_pos n with rfl | hn
    · rw [Nat.cast_zero, zero_mul] at hlow
      exact absurd hlow (not_lt.mpr (by positivity))
    · exact hn
  obtain ⟨hleast, hgreatest⟩ := length_toDigits_spec hn
  have hten : (0 : ℚ) < 10 ^ x := by positivity
  have hleast := mul_le_mul_of_nonneg_right hleast hten.le
  have hgreatest := mul_lt_mul_of_pos_right hgreatest hten
  rw [← zpow_add₀ (by norm_num)] at hleast hgreatest
  have habove : ¬ (((Nat.toDigits 10 n).length : Int) + x < -400) := by
    intro h
    have hle : (10 : ℚ) ^ (((Nat.toDigits 10 n).length : Int) + x) ≤ 10 ^ (-400 : Int) :=
      zpow_le_zpow_right₀ (by norm_num) h.le
    linarith
  have hbelow : ¬ (400 < ((Nat.toDigits 10 n).length : Int) + x) := by
    intro h
    have hle : (10 : ℚ) ^ (400 : Int) ≤ 10 ^ (((Nat.toDigits 10 n).length : Int) - 1 + x) :=
      zpow_le_zpow_right₀ (by norm_num) (by omega)
    linarith
  unfold ofDecimal
  dsimp only
  rw [if_neg (not_or.mpr ⟨hn.ne', habove⟩), if_neg hbelow]
  have hpowTen (k : Nat) : 0 < powTen k := Nat.pow_pos (by decide)
  cases x with
  | ofNat k =>
    refine ofRatio_eq hm (Nat.mul_pos hn (hpowTen k)) Nat.one_pos ?_ negative
    rw [Nat.cast_mul, powTen_eq, Nat.cast_one, div_one]
    exact hr
  | negSucc k =>
    refine ofRatio_eq hm hn (hpowTen (k + 1)) ?_ negative
    rw [powTen_eq, div_eq_mul_inv, ← zpow_negSucc]
    exact hr

theorem ofInt_eq (hm : IsMagnitude m e) (hpos : 0 < m) (hr : Rounds m e n) :
    ofInt n = finite false m e ∧ ofInt (-n) = finite true m e := by
  have hn : 0 < n := by
    have hlow := (bounds_of_rounds hm hpos hr).1
    have h : (0 : ℚ) < n := lt_trans (by positivity) hlow
    exact_mod_cast h
  have hround := ofRatio_eq hm hn Nat.one_pos (by rwa [Nat.cast_one, div_one])
  constructor
  · rw [ofInt, Int.natAbs_natCast, decide_eq_false (by omega)]
    exact hround false
  · rw [ofInt, Int.natAbs_neg, Int.natAbs_natCast, decide_eq_true (by omega)]
    exact hround true

end Rounding

/-- The text of a number without a sign, in its parts. -/
structure Numeral where
  whole : List Char
  fraction : Option (List Char) := none
  exponent : Option Int := none

namespace Numeral

def text (t : Numeral) : List Char :=
  t.whole ++ t.fraction.elim [] (fun ds => '.' :: ds) ++ t.exponent.elim [] exponentText

/-- The parts as they are read. -/
def parts (t : Numeral) : DecimalText :=
  { whole := t.whole, fraction := t.fraction.getD [], exponent := t.exponent.getD 0 }

/-- The number that a numeral denotes. -/
def value (t : Numeral) : ℚ :=
  natOfDigits (t.whole ++ t.fraction.getD []) * 10 ^ (t.exponent.getD 0 - (t.fraction.getD []).length)

/-- A numeral with neither a point nor an exponent. -/
def isWhole (t : Numeral) : Bool := t.fraction.isNone && t.exponent.isNone

/-- Whether a numeral is written with digits only, of which no zero leads another one. -/
structure IsProper (t : Numeral) : Prop where
  whole : ∀ c ∈ t.whole, isDigit c = true
  head : t.whole = ['0'] ∨ ∃ c rest, t.whole = c :: rest ∧ c ≠ '0'
  fraction : ∀ ds ∈ t.fraction, ∀ c ∈ ds, isDigit c = true
  short : t.isWhole = true → t.whole.length ≤ 4300

end Numeral

theorem isDigit_zero : ∀ c ∈ ['0'], isDigit c = true := List.forall_mem_singleton.mpr rfl

theorem natOfDigits_leading_zeros (k : Nat) (ds : List Char) :
    natOfDigits (List.replicate k '0' ++ ds) = natOfDigits ds := by
  rw [natOfDigits_append, natOfDigits_zeros, Nat.zero_mul, Nat.zero_add]

theorem natOfDigits_trailing_zeros (ds : List Char) (k : Nat) (i : Int) :
    (natOfDigits (ds ++ List.replicate k '0') * 10 ^ i : ℚ) = natOfDigits ds * 10 ^ (k + i) := by
  rw [natOfDigits_append, natOfDigits_zeros, List.length_replicate, Nat.add_zero, Nat.cast_mul,
    Nat.cast_pow, Nat.cast_ofNat, mul_assoc, zpow_add₀ (by norm_num), zpow_natCast]

/-- The numeral that a decimal is written as. -/
def Digits.numeral (point : Bool) (d : Digits) : Numeral :=
  if -4 < d.point ∧ d.point ≤ 16 then
    if d.point ≤ 0 then
      { whole := ['0'], fraction := some (List.replicate d.point.natAbs '0' ++ d.digits) }
    else if d.digits.length ≤ d.point then
      { whole := d.digits ++ List.replicate (d.point - d.digits.length).toNat '0'
        fraction := if point then some ['0'] else none }
    else { whole := d.digits.take d.point.toNat, fraction := some (d.digits.drop d.point.toNat) }
  else
    { whole := d.digits.take 1
      fraction := if d.digits.length ≤ 1 then none else some (d.digits.drop 1)
      exponent := some (d.point - 1) }

variable {d : Digits} {point : Bool}

theorem text_numeral (point : Bool) (d : Digits) : (d.numeral point).text = positiveText point d := by
  rw [Digits.numeral, positiveText]
  dsimp only
  split
  · split
    · simp [Numeral.text]
    · split
      · cases point <;> simp [Numeral.text]
      · simp [Numeral.text]
  · rcases d.digits with _ | ⟨c, _ | ⟨c', rest⟩⟩ <;> simp [Numeral.text]

theorem value_numeral (hd : d.IsDecimal) (point : Bool) : (d.numeral point).value = d.value := by
  have hplaces {a b : Nat} {i j : Int} (ha : a = b) (hi : i = j) : (a * 10 ^ i : ℚ) = b * 10 ^ j := by
    rw [ha, hi]
  rw [Digits.numeral]
  split
  · split
    · refine hplaces (natOfDigits_leading_zeros (d.point.natAbs + 1) d.digits) ?_
      simp only [Option.getD, List.length_append, List.length_replicate]
      omega
    split
    · have hzeros (k : Nat) (i : Int) (hi : (d.point - d.digits.length).toNat + k + i =
          d.point - d.digits.length) : (natOfDigits (d.digits ++ List.replicate
            (d.point - d.digits.length).toNat '0' ++ List.replicate k '0') * 10 ^ i : ℚ) = d.value := by
        rw [List.append_assoc, List.replicate_append_replicate, natOfDigits_trailing_zeros, Nat.cast_add,
          hi, Digits.value]
      cases point with
      | false => exact hzeros 0 0 (by omega)
      | true => exact hzeros 1 (-1) (by omega)
    · refine hplaces (by rw [Option.getD, List.take_append_drop]) ?_
      simp only [Option.getD, List.length_drop]
      omega
  · rw [Numeral.value, Digits.value]
    dsimp only
    split
    · refine hplaces (by rw [Option.getD, List.take_of_length_le ‹_›, List.append_nil]) ?_
      have hpos : 0 < d.digits.length := by
        obtain ⟨-, c, rest, hcons, -⟩ := hd
        rw [hcons]
        exact Nat.succ_pos _
      simp only [Option.getD, List.length_nil]
      omega
    · refine hplaces (by rw [Option.getD, List.take_append_drop]) ?_
      simp only [Option.getD, List.length_drop]
      omega

theorem isProper_numeral (hd : d.IsDecimal) (point : Bool) : (d.numeral point).IsProper := by
  obtain ⟨hdigits, c, rest, hcons, hc⟩ := hd
  have hhead {k : Nat} (hk : 0 < k) : ∃ c rest, d.digits.take k = c :: rest ∧ c ≠ '0' := by
    obtain ⟨k, rfl⟩ := Nat.exists_eq_succ_of_ne_zero hk.ne'
    exact ⟨c, rest.take k, by rw [hcons, List.take_succ_cons], hc⟩
  have htake {k : Nat} : ∀ c ∈ d.digits.take k, isDigit c = true :=
    fun c hc => hdigits c (List.mem_of_mem_take hc)
  have hdrop {k : Nat} : ∀ ds ∈ some (d.digits.drop k), ∀ c ∈ ds, isDigit c = true := by
    rintro _ ⟨rfl⟩ c hc
    exact hdigits c (List.mem_of_mem_drop hc)
  have hzeros {k : Nat} : ∀ c ∈ List.replicate k '0', isDigit c = true := by
    intro c hc
    rw [List.eq_of_mem_replicate hc]
    decide
  rw [Digits.numeral]
  split
  · split
    · refine ⟨isDigit_zero, .inl rfl, ?_, nofun⟩
      rintro _ ⟨rfl⟩ c hc
      exact (List.mem_append.mp hc).elim (hzeros c) (hdigits c)
    split
    · refine ⟨fun c hc => (List.mem_append.mp hc).elim (hdigits c) (hzeros c),
        .inr ⟨c, _, by rw [hcons]; rfl, hc⟩, ?_, fun _ => ?_⟩
      · cases point
        · nofun
        · rintro _ ⟨rfl⟩
          exact isDigit_zero
      · simp only [List.length_append, List.length_replicate]
        omega
    · exact ⟨htake, .inr (hhead (by omega)), hdrop, nofun⟩
  · refine ⟨htake, .inr (hhead Nat.one_pos), ?_, fun h => ?_⟩
    · dsimp only
      split
      · nofun
      · exact hdrop
    · simp [Numeral.isWhole] at h

theorem isWhole_numeral (d : Digits) : (d.numeral true).isWhole = false := by
  rw [Digits.numeral]
  split
  · split
    · rfl
    · split <;> rfl
  · simp [Numeral.isWhole]

/-- The text of a double without its sign is a numeral that is read as the double. -/
theorem magnitudeText_eq (hm : IsMagnitude m e) (negative point : Bool) : ∃ t : Numeral,
    t.IsProper ∧ magnitudeText point (finite negative m e) = t.text ∧
      t.parts.value false = finite false m e ∧ (point = true → t.isWhole = false) ∧
      (m = 0 → t.isWhole = !point) ∧
      (t.isWhole = true → ofInt (natOfDigits t.whole) = finite false m e ∧
        ofInt (-natOfDigits t.whole) = finite (m != 0) m e) := by
  rcases Nat.eq_zero_or_pos m with rfl | hpos
  · obtain rfl : e = -1074 := hm.normal.resolve_left (by decide)
    cases point with
    | false =>
      exact ⟨{ whole := ['0'] }, ⟨isDigit_zero, .inl rfl, nofun, by decide⟩, rfl, rfl, nofun, fun _ => rfl,
        fun _ => ⟨rfl, rfl⟩⟩
    | true =>
      refine ⟨{ whole := ['0'], fraction := some ['0'] }, ⟨isDigit_zero, .inl rfl, ?_, nofun⟩, rfl, rfl,
        fun _ => rfl, fun _ => rfl, nofun⟩
      rintro _ ⟨rfl⟩
      exact isDigit_zero
  · obtain ⟨hrounds, hdecimal⟩ := shortest_spec (e := e) hpos hm.below
    rw [← value_numeral hdecimal point] at hrounds
    have htext : magnitudeText point (finite negative m e) = ((shortest m e).numeral point).text := by
      obtain ⟨k, rfl⟩ := Nat.exists_eq_succ_of_ne_zero hpos.ne'
      rw [text_numeral]
      rfl
    refine ⟨(shortest m e).numeral point, isProper_numeral hdecimal point, htext,
      ofDecimal_eq hm hpos hrounds, ?_, fun hzero => absurd hzero hpos.ne', fun hwhole => ?_⟩
    · rintro rfl
      exact isWhole_numeral _
    · generalize (shortest m e).numeral point = t at *
      have hint : t.value = natOfDigits t.whole := by
        rw [Numeral.isWhole, Bool.and_eq_true, Option.isNone_iff_eq_none, Option.isNone_iff_eq_none] at hwhole
        rw [Numeral.value, hwhole.1, hwhole.2]
        simp
      rw [hint] at hrounds
      rw [bne_iff_ne.mpr hpos.ne']
      exact ofInt_eq hm hpos hrounds

end MacroStubs.Number
