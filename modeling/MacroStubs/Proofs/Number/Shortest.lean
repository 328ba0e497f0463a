import MacroStubs.Number.Decimal
import MacroStubs.Proofs.Number.Rounding

/-! # Shortest digits read back

The shortest digits of a double stand for a decimal that rounds to it: the grid of seventeen digits hits
the interval of every double, and what is found lies in the interval.
-/

namespace MacroStubs.Number
open Binary64

variable {m c : Nat} {e : Int} {i : Interval}

theorem powTen_eq (k : Nat) : ((powTen k : Nat) : ℚ) = 10 ^ k := by
  rw [powTen]
  exact_mod_cast rfl

namespace Interval

/-- An interval whose bounds and value, divided by a step, are these. -/
structure Spans (i : Interval) (low value high : ℚ) : Prop where
  den : 0 < i.den
  low : (i.low / i.den : ℚ) = low
  value : (i.value / i.den : ℚ) = value
  high : (i.high / i.den : ℚ) = high

variable {low value high : ℚ}

/-- Steps of another size. -/
theorem Spans.inSteps (h : i.Spans low value high) (p : Int) :
    (i.inSteps p).Spans (low / 10 ^ p) (value / 10 ^ p) (high / 10 ^ p) := by
  obtain ⟨hd, rfl, rfl, rfl⟩ := h
  cases p with
  | ofNat k =>
    have hpos : 0 < powTen k := Nat.pow_pos (by decide)
    refine ⟨Nat.mul_pos hd hpos, ?_, ?_, ?_⟩ <;>
      rw [Interval.inSteps, Nat.cast_mul, powTen_eq, Int.ofNat_eq_natCast, zpow_natCast, div_div]
  | negSucc k =>
    refine ⟨hd, ?_, ?_, ?_⟩ <;>
      rw [Interval.inSteps, Nat.cast_mul, powTen_eq, zpow_negSucc, div_inv_eq_mul, mul_comm_div,
        mul_div_assoc]

/-- A grid point in the interval, as a ratio. -/
theorem Spans.of_holds (h : i.Spans low value high) (hc : i.holds c = true) :
    low ≤ c ∧ (c : ℚ) ≤ high ∧ (i.closed = false → low < c ∧ (c : ℚ) < high) := by
  have hd : (0 : ℚ) < i.den := by exact_mod_cast h.den
  rw [← h.low, ← h.high, div_le_iff₀ hd, le_div_iff₀ hd, div_lt_iff₀ hd, lt_div_iff₀ hd]
  rw [holds] at hc
  split at hc
  · rename_i hclosed
    rw [Bool.and_eq_true, decide_eq_true_iff, decide_eq_true_iff] at hc
    exact ⟨by exact_mod_cast hc.1, by exact_mod_cast hc.2, fun hopen => by simp [hopen] at hclosed⟩
  · rw [Bool.and_eq_true, decide_eq_true_iff, decide_eq_true_iff] at hc
    exact ⟨by exact_mod_cast hc.1.le, by exact_mod_cast hc.2.le,
      fun _ => ⟨by exact_mod_cast hc.1, by exact_mod_cast hc.2⟩⟩

theorem holds_of_nearest? (h : i.nearest? = some c) : i.holds c = true := by
  rw [nearest?] at h
  split at h
  · cases h
  · obtain rfl := Option.some.inj h
    assumption
  · obtain rfl := Option.some.inj h
    assumption
  · rename_i hc hc'
    obtain rfl := Option.some.inj h
    rw [roundHalfEven]
    split
    · exact hc
    · split
      · exact hc'
      · rcases Nat.mod_two_eq_zero_or_one (i.value / i.den) with hm | hm <;> rw [hm]
        · exact hc
        · exact hc'

theorem holds_of_lt (hlow : i.low < c * i.den) (hhigh : c * i.den < i.high) : i.holds c = true := by
  rw [holds]
  split
  · simp [hlow.le, hhigh.le]
  · simp [hlow, hhigh]

/-- A grid with steps smaller than the interval hits it. -/
theorem Spans.nearest?_ne_none (h : i.Spans low value high) (hlow : low < value) (hhigh : value < high)
    (hstep : low + 1 < high) : i.nearest? ≠ none := by
  have hd : (0 : ℚ) < i.den := by exact_mod_cast h.den
  rw [← h.low, ← h.value, div_lt_div_iff_of_pos_right hd] at hlow
  rw [← h.value, ← h.high, div_lt_div_iff_of_pos_right hd] at hhigh
  rw [← h.low, ← h.high, div_add_one hd.ne', div_lt_div_iff_of_pos_right hd] at hstep
  have hlow : i.low < i.value := by exact_mod_cast hlow
  have hhigh : i.value < i.high := by exact_mod_cast hhigh
  have hstep : i.low + i.den < i.high := by exact_mod_cast hstep
  have hbelow : i.value / i.den * i.den ≤ i.value := Nat.div_mul_le_self _ _
  have habove : i.value < (i.value / i.den + 1) * i.den := by
    rw [Nat.mul_comm]
    exact Nat.lt_mul_div_succ _ h.den
  have hhit : i.holds (i.value / i.den) = true ∨ i.holds (i.value / i.den + 1) = true := by
    by_cases hl : i.low < i.value / i.den * i.den
    · exact .inl (holds_of_lt hl (by omega))
    · exact .inr (holds_of_lt (by omega) (by rw [Nat.add_mul, Nat.one_mul]; omega))
  rw [nearest?]
  split
  · rename_i h₁ h₂
    rw [h₁, h₂] at hhit
    simp at hhit
  · nofun
  · nofun
  · nofun

end Interval

/-- If one of so many grids hits an interval, the first that does is found. -/
theorem nearest?_scan {point : Int} (count : Nat) {n k : Nat} (hk : k < n)
    (hhit : (i.inSteps (point - ↑(count + k))).nearest? ≠ none) :
    (i.inSteps (point - (scan i point n count).2)).nearest? = some (scan i point n count).1 := by
  induction n generalizing count k with
  | zero => omega
  | succ n ih =>
    rw [scan]
    split
    · rename_i c hc
      exact hc
    · rename_i hnone
      cases k with
      | zero => exact absurd hnone hhit
      | succ k =>
        refine ih (count + 1) (k := k) (by omega) ?_
        rwa [show count + 1 + k = count + (k + 1) by omega]

/-- The midpoints around a double, and the double. -/
theorem spans_interval (hm : 0 < m) : (interval m e).Spans
    ((4 * m - if m = 2 ^ 52 ∧ -1074 < e then 1 else 2) / 4 * 2 ^ e) (m * 2 ^ e)
    ((4 * m + 2) / 4 * 2 ^ e) := by
  -- all three are multiples of a quarter of the unit
  have hspans {low unit den : Nat} (hd : 0 < den) (hunit : (unit / den : ℚ) = 2 ^ e / 4)
      (hlow : (low : ℚ) = 4 * m - if m = 2 ^ 52 ∧ -1074 < e then 1 else 2) :
      Interval.Spans ⟨low * unit, 4 * m * unit, (4 * m + 2) * unit, den, m % 2 == 0⟩
        ((4 * m - if m = 2 ^ 52 ∧ -1074 < e then 1 else 2) / 4 * 2 ^ e) (m * 2 ^ e)
        ((4 * m + 2) / 4 * 2 ^ e) := by
    refine ⟨hd, ?_, ?_, ?_⟩ <;> rw [Nat.cast_mul, mul_div_assoc, hunit]
    · rw [hlow, mul_div_assoc', div_mul_eq_mul_div]
    · push_cast
      ring
    · push_cast
      ring
  have hlow : ((4 * m - if m = powTwo 52 ∧ -1074 < e then 1 else 2 : Nat) : ℚ) =
      4 * m - if m = 2 ^ 52 ∧ -1074 < e then 1 else 2 := by
    rw [show powTwo 52 = 2 ^ 52 from rfl]
    split <;> rw [Nat.cast_sub (by omega)] <;> push_cast <;> rfl
  have hquarter : (2 ^ e / 4 : ℚ) = 2 ^ (e - 2) := by
    rw [zpow_sub₀ (by norm_num)]
    norm_num
  rw [interval]
  cases he : e - 2 with
  | ofNat k =>
    refine hspans Nat.one_pos ?_ hlow
    rw [hquarter, he, powTwo_eq, Int.ofNat_eq_natCast, zpow_natCast, Nat.cast_one, div_one]
  | negSucc k =>
    refine hspans (Nat.pow_pos (by decide)) ?_ hlow
    rw [hquarter, he, powTwo_eq, zpow_negSucc, Nat.cast_one, one_div]

/-- A number has as many digits as it reaches powers of ten. -/
theorem length_toDigits_spec {n : Nat} (hn : 0 < n) :
    (10 : ℚ) ^ ((Nat.toDigits 10 n).length - 1 : Int) ≤ n ∧
      (n : ℚ) < 10 ^ ((Nat.toDigits 10 n).length : Int) := by
  have hpos : 0 < (Nat.toDigits 10 n).length := Nat.length_toDigits_pos
  have hiff {k : Nat} (hk : 0 < k) := Nat.length_toDigits_le_iff (by decide : 1 < 10) hk (n := n)
  generalize (Nat.toDigits 10 n).length = l at *
  constructor
  · obtain ⟨k, rfl⟩ := Nat.exists_eq_succ_of_ne_zero hpos.ne'
    rw [Nat.succ_eq_add_one, Nat.cast_add, Nat.cast_one, add_sub_cancel_right, zpow_natCast]
    have h : 10 ^ k ≤ n := by
      rcases Nat.eq_zero_or_pos k with rfl | hk
      · exact hn
      · exact not_lt.mp fun hlt => absurd ((hiff hk).mpr hlt) (by omega)
    exact_mod_cast h
  · rw [zpow_natCast]
    exact_mod_cast (hiff hpos).mp le_rfl

/-- A positive ratio reaches the power of ten before its decimal point. -/
theorem le_of_decimalPoint {num den : Nat} (hn : 0 < num) (hd : 0 < den) :
    (10 : ℚ) ^ (decimalPoint num den - 1) ≤ num / den := by
  have hd' : (0 : ℚ) < den := by exact_mod_cast hd
  have hnum := (length_toDigits_spec hn).1
  have hden := (length_toDigits_spec hd).2
  rw [decimalPoint, le_div_iff₀ hd']
  generalize (Nat.toDigits 10 num).length = a at *
  generalize (Nat.toDigits 10 den).length = b at *
  have hbelow : (10 : ℚ) ^ ((a : Int) - b - 1) * den ≤ num := by
    have hle := mul_le_mul_of_nonneg_left hden.le
      (show (0 : ℚ) ≤ 10 ^ ((a : Int) - b - 1) by positivity)
    rw [← zpow_add₀ (by norm_num), show (a : Int) - b - 1 + b = a - 1 by ring] at hle
    exact hle.trans hnum
  cases hk : (a : Int) - b with
  | ofNat j =>
    rw [hk] at hbelow
    dsimp only
    split
    · exact hbelow
    · rename_i hnot
      rw [decide_eq_true_iff, not_lt, Nat.mul_comm] at hnot
      rw [add_sub_cancel_right, Int.ofNat_eq_natCast, zpow_natCast, ← powTen_eq]
      exact_mod_cast hnot
  | negSucc j =>
    rw [hk] at hbelow
    dsimp only
    split
    · exact hbelow
    · rename_i hnot
      rw [decide_eq_true_iff, not_lt] at hnot
      rw [add_sub_cancel_right, zpow_negSucc, inv_mul_le_iff₀' (by positivity), ← powTen_eq]
      exact_mod_cast hnot

section Digits

theorem natOfDigits_append (ds ds' : List Char) :
    natOfDigits (ds ++ ds') = natOfDigits ds * 10 ^ ds'.length + natOfDigits ds' := by
  have hfrom (k : Nat) : ds'.foldl (fun n c => 10 * n + digitValue c) k =
      k * 10 ^ ds'.length + natOfDigits ds' := by
    rw [natOfDigits]
    induction ds' generalizing k with
    | nil => simp
    | cons c rest ih =>
      rw [List.foldl_cons, List.foldl_cons, ih, ih (10 * 0 + digitValue c), List.length_cons]
      ring
  rw [natOfDigits, List.foldl_append, hfrom]
  rfl

theorem natOfDigits_zeros (n : Nat) : natOfDigits (List.replicate n '0') = 0 := by
  induction n with
  | zero => rfl
  | succ n ih =>
    rw [List.replicate_succ', natOfDigits_append, ih]
    rfl

theorem natOfDigits_toDigits (n : Nat) : natOfDigits (Nat.toDigits 10 n) = n :=
  Nat.ofDigitChars_ten_toDigits

theorem isDigit_of_mem_toDigits {n : Nat} {c : Char} (h : c ∈ Nat.toDigits 10 n) :
    isDigit c = true := by
  have hc := Nat.isDigit_of_mem_toDigits (by decide) (by decide) h
  rw [Char.isDigit, Bool.and_eq_true, decide_eq_true_iff, decide_eq_true_iff] at hc
  rw [isDigit, Bool.and_eq_true, decide_eq_true_iff, decide_eq_true_iff]
  exact hc

theorem head_toDigits {n : Nat} (hn : 0 < n) : (Nat.toDigits 10 n).head? ≠ some '0' := by
  induction n using Nat.strongRecOn with
  | _ n ih =>
    by_cases h : n < 10
    · rw [Nat.toDigits_of_lt_base h]
      have hdigit : ∀ k : Fin 10, 0 < k.val → [k.val.digitChar].head? ≠ some '0' := by decide
      exact hdigit ⟨n, h⟩ hn
    · rw [Nat.toDigits_of_base_le (by decide) (not_lt.mp h), List.head?_append_of_ne_nil]
      · exact ih _ (by omega) (by omega)
      · exact List.ne_nil_of_length_pos Nat.length_toDigits_pos

theorem dropTrailingZeros_spec (ds : List Char) :
    ∃ k, ds = dropTrailingZeros ds ++ List.replicate k '0' := by
  have hsplit := congrArg List.reverse
    (List.takeWhile_append_dropWhile (p := fun c => decide (c = '0')) (l := ds.reverse))
  rw [List.reverse_append, List.reverse_reverse] at hsplit
  refine ⟨_, hsplit.symm.trans (congrArg _ (List.eq_replicate_iff.mpr ⟨rfl, fun c hc => ?_⟩))⟩
  have := List.all_eq_true.mp List.all_takeWhile c (List.mem_reverse.mp hc)
  exact of_decide_eq_true this

end Digits

/-- The number that digits with their decimal point denote. -/
def Digits.value (d : Digits) : ℚ := natOfDigits d.digits * 10 ^ (d.point - d.digits.length)

/-- Whether digits can be the ones of a positive decimal: none of them leads in vain. -/
structure Digits.IsDecimal (d : Digits) : Prop where
  digits : ∀ c ∈ d.digits, isDigit c = true
  head : ∃ c rest, d.digits = c :: rest ∧ c ≠ '0'

variable {p : Int}

/-- What the interval of a double holds rounds to the double. -/
theorem rounds_of_holds (hm : 0 < m) (hc : ((interval m e).inSteps p).holds c = true) :
    Rounds m e (c * 10 ^ p) := by
  have hstep : (0 : ℚ) < 10 ^ p := by positivity
  have hunit : (0 : ℚ) < 2 ^ e := by positivity
  obtain ⟨hlow, hhigh, hopen⟩ := ((spans_interval hm).inSteps p).of_holds hc
  rw [div_le_iff₀ hstep, ← le_div_iff₀ hunit] at hlow
  rw [le_div_iff₀ hstep, ← div_le_iff₀ hunit] at hhigh
  refine ⟨by linarith, by linarith, fun hodd => ?_⟩
  have hclosed : ((interval m e).inSteps p).closed = false := by
    have hodd' : (interval m e).closed = false := by
      rw [interval]
      simp [hodd]
    cases p <;> exact hodd'
  obtain ⟨hlow', hhigh'⟩ := hopen hclosed
  rw [div_lt_iff₀ hstep, ← lt_div_iff₀ hunit] at hlow'
  rw [lt_div_iff₀ hstep, ← div_lt_iff₀ hunit] at hhigh'
  have hpower : ¬ (m = 2 ^ 52 ∧ -1074 < e) := by omega
  rw [if_neg hpower] at hlow'
  constructor <;> linarith

/-- Seventeen digits are enough for every double. -/
theorem nearest?_seventeen (hm : 0 < m) (hbelow : m < 2 ^ 53) :
    ((interval m e).inSteps (decimalPoint (interval m e).value (interval m e).den - 17)).nearest? ≠
      none := by
  have hspans := spans_interval (e := e) hm
  have hunit : (0 : ℚ) < 2 ^ e := by positivity
  have hm' : (0 : ℚ) < m := by exact_mod_cast hm
  have hd : (0 : ℚ) < (interval m e).den := by exact_mod_cast hspans.den
  have hvalue : 0 < (interval m e).value := by
    have h : (0 : ℚ) < (interval m e).value := by
      rw [← div_pos_iff_of_pos_right hd, hspans.value]
      positivity
    exact_mod_cast h
  have hpoint := le_of_decimalPoint hvalue hspans.den
  rw [hspans.value] at hpoint
  generalize decimalPoint (interval m e).value (interval m e).den = point at hpoint ⊢
  have hstep : (0 : ℚ) < 10 ^ (point - 17) := by positivity
  have htens : (10 : ℚ) ^ (point - 1) = 10 ^ 16 * 10 ^ (point - 17) := by
    rw [← zpow_natCast, ← zpow_add₀ (by norm_num)]
    congr 1
    push_cast
    ring
  rw [htens] at hpoint
  have hgap : ((4 * m - if m = 2 ^ 52 ∧ -1074 < e then 1 else 2) / 4 + m / 10 ^ 16 : ℚ) <
      (4 * m + 2) / 4 := by
    have hm'' : (m : ℚ) < 2 ^ 53 := by exact_mod_cast hbelow
    split
    · rename_i hpower
      have : (m : ℚ) = 2 ^ 52 := by exact_mod_cast hpower.1
      rw [this]
      norm_num
    · linarith
  refine (hspans.inSteps _).nearest?_ne_none ?_ ?_ ?_
  · rw [div_lt_div_iff_of_pos_right hstep]
    refine mul_lt_mul_of_pos_right ?_ hunit
    split <;> linarith
  · rw [div_lt_div_iff_of_pos_right hstep]
    exact mul_lt_mul_of_pos_right (by linarith) hunit
  · rw [div_add_one hstep.ne', div_lt_div_iff_of_pos_right hstep]
    have hmul := mul_lt_mul_of_pos_right hgap hunit
    rw [add_mul] at hmul
    linarith

/-- Leaving out trailing zeros changes neither the value of digits nor their first one. -/
theorem isDecimal_dropTrailingZeros {c : Nat} (hc : 0 < c) (point : Int) :
    let ds := Nat.toDigits 10 c
    let d : Digits := ⟨dropTrailingZeros ds, point + ds.length⟩
    d.value = c * 10 ^ point ∧ d.IsDecimal := by
  obtain ⟨k, hk⟩ := dropTrailingZeros_spec (Nat.toDigits 10 c)
  have hvalue := natOfDigits_toDigits c
  have hhead := head_toDigits hc
  have hdigits {d : Char} (hd : d ∈ dropTrailingZeros (Nat.toDigits 10 c)) : isDigit d = true :=
    isDigit_of_mem_toDigits (n := c) (by rw [hk]; exact List.mem_append_left _ hd)
  dsimp only
  generalize dropTrailingZeros (Nat.toDigits 10 c) = ds at *
  rw [hk] at hvalue hhead ⊢
  rw [natOfDigits_append, natOfDigits_zeros, List.length_replicate, add_zero] at hvalue
  refine ⟨?_, fun d => hdigits, ?_⟩
  · rw [Digits.value, ← hvalue, List.length_append, List.length_replicate, Nat.cast_mul, Nat.cast_pow,
      Nat.cast_ofNat, mul_assoc, ← zpow_natCast, ← zpow_add₀ (by norm_num)]
    congr 2
    push_cast
    ring
  · cases ds with
    | nil =>
      rw [← hvalue] at hc
      exact absurd hc (by rw [natOfDigits]; simp)
    | cons d rest => exact ⟨d, rest, rfl, fun h => hhead (congrArg some h)⟩

/-- The shortest digits of a double round to it. -/
theorem shortest_spec (hm : 0 < m) (hbelow : m < 2 ^ 53) :
    Rounds m e (shortest m e).value ∧ (shortest m e).IsDecimal := by
  have hfound := Interval.holds_of_nearest?
    (nearest?_scan 1 (k := 16) (n := 17) (by decide) (nearest?_seventeen (e := e) hm hbelow))
  rw [shortest]
  generalize decimalPoint (interval m e).value (interval m e).den = point at *
  generalize scan (interval m e) point 17 1 = found at *
  obtain ⟨c, count⟩ := found
  have hrounds := rounds_of_holds hm hfound
  have hc : 0 < c := by
    rcases Nat.eq_zero_or_pos c with rfl | hc
    · have hlow := hrounds.low
      have hm' : (1 : ℚ) ≤ m := by exact_mod_cast hm
      rw [Nat.cast_zero, zero_mul, zero_div, mul_zero] at hlow
      split at hlow <;> linarith
    · exact hc
  obtain ⟨hvalue, hdecimal⟩ := isDecimal_dropTrailingZeros hc (point - count)
  dsimp only at *
  rw [show point + ((Nat.toDigits 10 c).length : Int) - count =
    point - count + (Nat.toDigits 10 c).length by ring]
  exact ⟨hvalue ▸ hrounds, hdecimal⟩

end MacroStubs.Number
