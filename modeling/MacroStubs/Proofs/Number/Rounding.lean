import MacroStubs.Number.Binary64
import Mathlib.Algebra.Order.Field.Power
import Mathlib.Data.Rat.Cast.Order
import Mathlib.Tactic.FieldSimp
import Mathlib.Tactic.Linarith
import Mathlib.Tactic.Positivity
import Mathlib.Tactic.Ring

/-! # Rounding to doubles

Which ratios are rounded to a double: those between the midpoints to its two neighbours, the midpoints
themselves if its significand is even.
-/

namespace MacroStubs.Binary64

variable {num den m : Nat} {e : Int} {r : ℚ}

/-- The significand and the exponent of a finite double. Only the least exponent lets the significand be
below `2 ^ 52`. -/
structure IsMagnitude (m : Nat) (e : Int) : Prop where
  below : m < 2 ^ 53
  least : -1074 ≤ e
  greatest : e ≤ 971
  normal : 2 ^ 52 ≤ m ∨ e = -1074

/-- Whether a ratio stands between the two midpoints around a double. Below a power of two the next
double is half as far. -/
structure Rounds (m : Nat) (e : Int) (r : ℚ) : Prop where
  low : (4 * m - if m = 2 ^ 52 ∧ -1074 < e then 1 else 2 : ℚ) ≤ 4 * (r / 2 ^ e)
  high : 4 * (r / 2 ^ e) ≤ 4 * m + 2
  strict : m % 2 = 1 → (4 * m - 2 : ℚ) < 4 * (r / 2 ^ e) ∧ 4 * (r / 2 ^ e) < 4 * m + 2

/-- A quotient rounds to a whole number if it is no more than a half away, or less if this is odd. -/
theorem roundHalfEven_of_bounds (hd : 0 < den) {q : Nat} (hl : 2 * q * den ≤ 2 * num + den)
    (hh : 2 * num ≤ 2 * q * den + den)
    (hs : q % 2 = 1 → 2 * q * den < 2 * num + den ∧ 2 * num < 2 * q * den + den) :
    roundHalfEven num den = q := by
  have hdiv : den * (num / den) + num % den = num := Nat.div_add_mod num den
  have hmod : num % den < den := Nat.mod_lt num hd
  rw [roundHalfEven]
  generalize num / den = k at hdiv ⊢
  generalize num % den = t at hdiv hmod ⊢
  have hkq : k ≤ q := by
    by_contra hk
    have := Nat.mul_le_mul_left den (show q + 1 ≤ k by omega)
    nlinarith
  have hqk : q ≤ k + 1 := by
    by_contra hk
    have := Nat.mul_le_mul_left den (show k + 2 ≤ q by omega)
    nlinarith
  -- with the quotient fixed, all bounds are linear in `den * k`
  obtain rfl | rfl : q = k ∨ q = k + 1 := by omega
  · rw [show 2 * q * den = 2 * (den * q) by ring] at hl hh hs
    split
    · rfl
    · split <;> omega
  · rw [show 2 * (k + 1) * den = 2 * (den * k) + 2 * den by ring] at hl hh hs
    split
    · omega
    · split <;> omega

/-- The same told of the ratio. -/
theorem roundHalfEven_eq (hd : 0 < den) {q : Nat} (hlow : (2 * q - 1 : ℚ) ≤ 2 * (num / den : ℚ))
    (hhigh : 2 * (num / den : ℚ) ≤ 2 * q + 1)
    (hstrict : q % 2 = 1 → (2 * q - 1 : ℚ) < 2 * (num / den : ℚ) ∧ 2 * (num / den : ℚ) < 2 * q + 1) :
    roundHalfEven num den = q := by
  have hd' : (0 : ℚ) < den := by exact_mod_cast hd
  refine roundHalfEven_of_bounds hd ?_ ?_ fun hq => ?_
  · rw [← mul_div_assoc, le_div_iff₀ hd'] at hlow
    have h : (2 * q * den : ℚ) ≤ 2 * num + den := by linarith
    exact_mod_cast h
  · rw [← mul_div_assoc, div_le_iff₀ hd'] at hhigh
    have h : (2 * num : ℚ) ≤ 2 * q * den + den := by linarith
    exact_mod_cast h
  · obtain ⟨h₁, h₂⟩ := hstrict hq
    rw [← mul_div_assoc, lt_div_iff₀ hd'] at h₁
    rw [← mul_div_assoc, div_lt_iff₀ hd'] at h₂
    constructor
    · have h : (2 * q * den : ℚ) < 2 * num + den := by linarith
      exact_mod_cast h
    · have h : (2 * num : ℚ) < 2 * q * den + den := by linarith
      exact_mod_cast h

theorem powTwo_eq (k : Nat) : ((powTwo k : Nat) : ℚ) = 2 ^ k := by
  rw [powTwo]
  exact_mod_cast rfl

/-- Scaling divides a ratio by a power of two. -/
theorem scaleDown_eq (num : Nat) (hd : 0 < den) (e : Int) : 0 < (scaleDown num den e).2 ∧
    ((scaleDown num den e).1 / (scaleDown num den e).2 : ℚ) = num / den / 2 ^ e := by
  have hpos (k : Nat) : 0 < powTwo k := Nat.pow_pos (by decide)
  cases e with
  | ofNat k =>
    refine ⟨Nat.mul_pos hd (hpos k), ?_⟩
    rw [scaleDown, Nat.cast_mul, powTwo_eq, Int.ofNat_eq_natCast, zpow_natCast, div_div]
  | negSucc k =>
    refine ⟨hd, ?_⟩
    rw [scaleDown, Nat.cast_mul, powTwo_eq, zpow_negSucc, div_inv_eq_mul, mul_comm_div, mul_div_assoc]

/-- A ratio that is large on one scale and small on another one tells which scale is the finer one. -/
theorem le_of_scaled {i j : Int} (hlow : (2 ^ 52 : ℚ) ≤ r / 2 ^ i) (hhigh : r / 2 ^ j < 2 ^ 53) :
    i ≤ j := by
  have hi : (0 : ℚ) < 2 ^ i := by positivity
  have hj : (0 : ℚ) < 2 ^ j := by positivity
  rw [le_div_iff₀ hi] at hlow
  rw [div_lt_iff₀ hj] at hhigh
  have hpow : (2 : ℚ) ^ (52 + i) < 2 ^ (53 + j) := by
    rw [zpow_add₀ (by norm_num), zpow_add₀ (by norm_num)]
    exact_mod_cast hlow.trans_lt hhigh
  have := (zpow_lt_zpow_iff_right₀ (by norm_num : (1 : ℚ) < 2)).mp hpow
  omega

/-- On the next finer scale a ratio is twice as large. -/
theorem div_zpow_sub_one (r : ℚ) (e : Int) : r / 2 ^ (e - 1) = 2 * (r / 2 ^ e) := by
  rw [zpow_sub_one₀ (by norm_num), div_mul_eq_div_div, div_inv_eq_mul, mul_comm]

/-- The exponent that puts the significand of a ratio between `2 ^ 52` and `2 ^ 53`. -/
theorem normalExponent_spec (hn : 0 < num) (hd : 0 < den) :
    (2 ^ 52 : ℚ) ≤ num / den / 2 ^ normalExponent num den ∧
      (num / den / 2 ^ normalExponent num den : ℚ) < 2 ^ 53 := by
  have hd' : (0 : ℚ) < den := by exact_mod_cast hd
  have hnlow : (2 : ℚ) ^ num.log2 ≤ num := by exact_mod_cast Nat.log2_self_le hn.ne'
  have hnhigh : (num : ℚ) < 2 ^ (num.log2 + 1) := by exact_mod_cast Nat.lt_log2_self
  have hdlow : (2 : ℚ) ^ den.log2 ≤ den := by exact_mod_cast Nat.log2_self_le hd.ne'
  have hdhigh : (den : ℚ) < 2 ^ (den.log2 + 1) := by exact_mod_cast Nat.lt_log2_self
  rw [normalExponent]
  generalize num.log2 = a at *
  generalize den.log2 = b at *
  -- scaled by the quotient of the two leading bits, the ratio is between a half and two
  have hscale : (2 : ℚ) ^ ((a : Int) - b - 52) = 2 ^ a / 2 ^ b / 2 ^ 52 := by
    rw [zpow_sub₀ (by norm_num), zpow_sub₀ (by norm_num)]
    norm_cast
  obtain ⟨hpos, heq⟩ := scaleDown_eq num hd ((a : Int) - b - 52)
  have hpos' : (0 : ℚ) < (scaleDown num den ((a : Int) - b - 52)).2 := by exact_mod_cast hpos
  have hquotient : (0 : ℚ) < 2 ^ a / 2 ^ b := by positivity
  have hcancel : (2 ^ a / 2 ^ b * 2 ^ b : ℚ) = 2 ^ a := div_mul_cancel₀ _ (by positivity)
  have hlow : (2 ^ 51 : ℚ) ≤ num / den / 2 ^ ((a : Int) - b - 52) := by
    rw [hscale, le_div_iff₀ (by positivity), le_div_iff₀ hd']
    have hle := mul_le_mul_of_nonneg_left hdhigh.le hquotient.le
    rw [pow_succ, ← mul_assoc, hcancel] at hle
    linarith
  have hhigh : (num / den / 2 ^ ((a : Int) - b - 52) : ℚ) < 2 ^ 53 := by
    rw [hscale, div_lt_iff₀ (by positivity), div_lt_iff₀ hd']
    have hle := mul_le_mul_of_nonneg_left hdlow hquotient.le
    rw [hcancel] at hle
    rw [pow_succ] at hnhigh
    linarith
  dsimp only
  split
  · rename_i hlt
    have hlt' : (num / den / 2 ^ ((a : Int) - b - 52) : ℚ) < 2 ^ 52 := by
      rw [← heq, div_lt_iff₀ hpos', ← powTwo_eq]
      exact_mod_cast hlt
    rw [div_zpow_sub_one]
    constructor <;> linarith
  · rename_i hge
    refine ⟨?_, hhigh⟩
    rw [← heq, le_div_iff₀ hpos', ← powTwo_eq]
    exact_mod_cast not_lt.mp hge

/-- What is left of a conversion once the exponent is known. -/
theorem ofRatio_of_exponent {k : Int} {q : Nat} (hn : 0 < num) (hd : 0 < den)
    (hk : max (normalExponent num den) (-1074) = k)
    (hlow : (2 * q - 1 : ℚ) ≤ 2 * (num / den / 2 ^ k))
    (hhigh : 2 * (num / den / 2 ^ k) ≤ (2 * q + 1 : ℚ))
    (hstrict : q % 2 = 1 → (2 * q - 1 : ℚ) < 2 * (num / den / 2 ^ k) ∧
      2 * (num / den / 2 ^ k) < (2 * q + 1 : ℚ)) (negative : Bool) :
    ofRatio negative num den =
      let p := if q = 2 ^ 53 then (2 ^ 52, k + 1) else (q, k)
      if 971 < p.2 then infinity negative else finite negative p.1 p.2 := by
  obtain ⟨hpos, heq⟩ := scaleDown_eq num hd k
  rw [ofRatio, if_neg hn.ne', hk]
  dsimp only
  rw [roundHalfEven_eq (q := q) hpos (heq ▸ hlow) (heq ▸ hhigh) (heq ▸ hstrict)]
  rfl

/-- Only below a power of two is a ratio on a finer scale than the double that it rounds to. -/
theorem Rounds.eq_of_finer_scale (hr : Rounds m e r) (hm : IsMagnitude m e)
    (hbelow : r / 2 ^ e < 2 ^ 52) (hleast : e ≠ -1074) : m = 2 ^ 52 := by
  have hle := hm.normal.resolve_right hleast
  by_contra hne
  have hlow := hr.low
  rw [if_neg (by tauto)] at hlow
  have hsucc : (2 ^ 52 + 1 : ℚ) ≤ m := by exact_mod_cast lt_of_le_of_ne hle (Ne.symm hne)
  linarith

section Rounds

variable (hm : IsMagnitude m e) (hn : 0 < num) (hd : 0 < den) (hr : Rounds m e (num / den))

include hm hn hd hr

/-- On the scale of the double that it rounds to, a ratio is rounded to the significand. -/
theorem ofRatio_of_own_scale (hnormal : (2 ^ 52 : ℚ) ≤ num / den / 2 ^ e ∨ e = -1074)
    (negative : Bool) : ofRatio negative num den = finite negative m e := by
  obtain ⟨hlarge, hsmall⟩ := normalExponent_spec hn hd
  have hupper : (num / den / 2 ^ e : ℚ) < 2 ^ 53 := by
    have hm' : (m : ℚ) + 1 ≤ 2 ^ 53 := by exact_mod_cast hm.below
    have := hr.high
    linarith
  have hexponent : max (normalExponent num den) (-1074) = e := by
    rcases hnormal with hnormal | rfl
    · have := le_of_scaled hlarge hupper
      have := le_of_scaled hnormal hsmall
      have := hm.least
      omega
    · have := le_of_scaled hlarge hupper
      omega
  have hlow : (4 * m - 2 : ℚ) ≤ 4 * (num / den / 2 ^ e) := by
    have := hr.low
    split at this <;> linarith
  rw [ofRatio_of_exponent (q := m) hn hd hexponent (by linarith) (by have := hr.high; linarith)
    fun hodd => by obtain ⟨h₁, h₂⟩ := hr.strict hodd; constructor <;> linarith]
  rw [if_neg hm.below.ne]
  dsimp only
  rw [if_neg (not_lt.mpr hm.greatest)]

/-- On a finer scale it is rounded to the next power of two, which is the double. -/
theorem ofRatio_of_finer_scale (hbelow : (num / den / 2 ^ e : ℚ) < 2 ^ 52) (hleast : e ≠ -1074)
    (negative : Bool) : ofRatio negative num den = finite negative m e := by
  obtain ⟨hlarge, hsmall⟩ := normalExponent_spec hn hd
  obtain rfl := hr.eq_of_finer_scale hm hbelow hleast
  have hgreater : -1074 < e := lt_of_le_of_ne hm.least (Ne.symm hleast)
  have hlow := hr.low
  rw [if_pos ⟨rfl, hgreater⟩] at hlow
  push_cast at hlow
  have hfiner := div_zpow_sub_one (num / den) e
  have hexponent : max (normalExponent num den) (-1074) = e - 1 := by
    have := @le_of_scaled _ _ (e - 1) hlarge (by rw [hfiner]; linarith)
    have := @le_of_scaled _ (e - 1) _ (by rw [hfiner]; linarith) hsmall
    omega
  rw [ofRatio_of_exponent (q := 2 ^ 53) hn hd hexponent (by rw [hfiner]; push_cast; linarith)
    (by rw [hfiner]; push_cast; linarith) nofun]
  rw [if_pos rfl]
  dsimp only
  rw [sub_add_cancel, if_neg (not_lt.mpr hm.greatest)]

/-- A ratio between the midpoints around a double rounds to it. -/
theorem ofRatio_eq (negative : Bool) : ofRatio negative num den = finite negative m e := by
  by_cases hnormal : (2 ^ 52 : ℚ) ≤ num / den / 2 ^ e ∨ e = -1074
  · exact ofRatio_of_own_scale hm hn hd hr hnormal negative
  · obtain ⟨hbelow, hleast⟩ := not_or.mp hnormal
    exact ofRatio_of_finer_scale hm hn hd hr (not_le.mp hbelow) hleast negative

end Rounds

end MacroStubs.Binary64
