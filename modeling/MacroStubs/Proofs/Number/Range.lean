import MacroStubs.Proofs.Number.Rounding

/-! # The range of doubles

Which whole numbers have a nearest double that is finite: those below the midpoint between the greatest
double and the power of two behind it.
-/

namespace MacroStubs.Binary64

variable {num den q : Nat}

/-- What is less than half above a whole number does not round above it. -/
theorem roundHalfEven_le (h : 2 * num < (2 * q + 1) * den) : roundHalfEven num den ≤ q := by
  have hdiv : den * (num / den) + num % den = num := Nat.div_add_mod num den
  rw [roundHalfEven]
  generalize num / den = k at hdiv ⊢
  generalize num % den = t at hdiv ⊢
  have hkq : k ≤ q := by
    by_contra hk
    have := Nat.mul_le_mul_left den (show q + 1 ≤ k by omega)
    nlinarith
  obtain hlt | rfl := Nat.lt_or_eq_of_le hkq
  · -- one more than the quotient is still no more than the bound
    split
    · omega
    · split <;> omega
  · have hhalf : 2 * t < den := by nlinarith
    rw [if_pos hhalf]

/-- The midpoint above an odd whole number rounds to the even one behind it. -/
theorem roundHalfEven_succ (hq : q % 2 = 1) (hlow : (2 * q + 1) * den ≤ 2 * num)
    (hhigh : num < (q + 1) * den) : roundHalfEven num den = q + 1 := by
  have hd : 0 < den := by
    by_contra hd
    obtain rfl : den = 0 := by omega
    omega
  have hd' : (0 : ℚ) < den := by exact_mod_cast hd
  have hl : ((2 * q + 1) * den : ℚ) ≤ 2 * num := by exact_mod_cast hlow
  have hh : (num : ℚ) < (q + 1) * den := by exact_mod_cast hhigh
  rw [← div_lt_iff₀ hd'] at hh
  rw [← le_div_iff₀ hd', mul_div_assoc] at hl
  refine roundHalfEven_eq hd ?_ ?_ fun hodd => ?_
  · push_cast
    linarith
  · push_cast
    linarith
  · omega

/-- The midpoint between the greatest double, `(2 ^ 53 - 1) * 2 ^ 971`, and `2 ^ 1024`. -/
def bound : Nat := (powTwo 54 - 1) * powTwo 970

theorem bound_eq : (bound : ℚ) = (2 ^ 54 - 1) * 2 ^ (970 : Int) := by
  have hpow : (powTwo 54 - 1 : Nat) = (2 ^ 54 - 1 : Nat) := rfl
  rw [bound, hpow, Nat.cast_mul, powTwo_eq, ← zpow_natCast]
  norm_num

/-- The exponent of a positive whole number is the one that puts its significand between `2 ^ 52` and
`2 ^ 53`. -/
theorem normalExponent_whole (hn : 0 < num) : -1074 ≤ normalExponent num 1 ∧
    (2 ^ 52 * 2 ^ normalExponent num 1 : ℚ) ≤ num ∧ (num : ℚ) < 2 ^ 53 * 2 ^ normalExponent num 1 := by
  obtain ⟨hlarge, hsmall⟩ := normalExponent_spec hn Nat.one_pos
  generalize normalExponent num 1 = e at *
  have hpow : (0 : ℚ) < 2 ^ e := by positivity
  rw [Nat.cast_one, div_one, le_div_iff₀ hpow] at hlarge
  rw [Nat.cast_one, div_one, div_lt_iff₀ hpow] at hsmall
  refine ⟨?_, hlarge, hsmall⟩
  have hone : (1 : ℚ) ≤ num := by exact_mod_cast hn
  by_contra hlt
  have hle : (2 : ℚ) ^ e ≤ 2 ^ (-53 : Int) := zpow_le_zpow_right₀ (by norm_num) (by omega)
  have hcancel : (2 ^ 53 * 2 ^ (-53 : Int) : ℚ) = 1 := by norm_num
  linarith

/-- The double nearest to a positive whole number is finite unless its exponent is too large or becomes
too large by rounding. -/
theorem isFinite_ofRatio {e : Int} (hn : 0 < num) (he : normalExponent num 1 = e)
    (negative : Bool) : (ofRatio negative num 1).isFinite = true ↔
      e < 971 ∨ e = 971 ∧ (2 * num : ℚ) < (2 ^ 54 - 1) * 2 ^ e := by
  obtain ⟨hleast, -, hsmall⟩ := normalExponent_whole hn
  obtain ⟨hpos, heq⟩ := scaleDown_eq num Nat.one_pos e
  rw [he] at hleast hsmall
  rw [ofRatio, if_neg hn.ne', he, max_eq_left hleast]
  dsimp only
  generalize (scaleDown num 1 e).1 = a at *
  generalize (scaleDown num 1 e).2 = d at *
  have hd : (0 : ℚ) < d := by exact_mod_cast hpos
  have hpow : (0 : ℚ) < 2 ^ e := by positivity
  rw [Nat.cast_one, div_one] at heq
  have hbelow : a < (2 ^ 53 - 1 + 1) * d := by
    rw [← div_lt_iff₀ hpow, ← heq, div_lt_iff₀ hd] at hsmall
    exact_mod_cast hsmall
  -- the midpoint on the scale on which the number is rounded
  have hmid : (2 * num : ℚ) < (2 ^ 54 - 1) * 2 ^ e ↔ 2 * a < (2 * (2 ^ 53 - 1) + 1) * d := by
    rw [← div_lt_iff₀ hpow, mul_div_assoc, ← heq, ← mul_div_assoc, div_lt_iff₀ hd]
    norm_num
    exact_mod_cast Iff.rfl
  rw [hmid]
  by_cases hround : 2 * a < (2 * (2 ^ 53 - 1) + 1) * d
  · have hle := roundHalfEven_le hround
    have hne : roundHalfEven a d ≠ powTwo 53 := by
      change roundHalfEven a d ≠ 2 ^ 53
      omega
    rw [if_neg hne]
    dsimp only
    split <;> simp [isFinite] <;> omega
  · have hround' : roundHalfEven a d = powTwo 53 :=
      roundHalfEven_succ (by norm_num) (not_lt.mp hround) hbelow
    rw [if_pos hround']
    dsimp only
    split <;> simp [isFinite] <;> omega

/-- A whole number has a finite nearest double exactly if it is below the midpoint. -/
theorem isFinite_ofInt_iff (n : Int) : (ofInt n).isFinite = true ↔ n.natAbs < bound := by
  rw [ofInt, ← Nat.cast_lt (α := ℚ), bound_eq]
  generalize n.natAbs = num
  have hmono {i j : Int} (h : i ≤ j) : (2 : ℚ) ^ i ≤ 2 ^ j := zpow_le_zpow_right₀ (by norm_num) h
  have hnext (i : Int) : (2 : ℚ) ^ (i + 1) = 2 * 2 ^ i := by
    rw [zpow_add_one₀ (by norm_num), mul_comm]
  -- the powers that count are multiples of one of them, which need not be evaluated
  obtain ⟨p, hp⟩ : ∃ p : ℚ, (2 : ℚ) ^ (970 : Int) = p := ⟨_, rfl⟩
  have hpos : 0 < p := hp ▸ zpow_pos (by norm_num) _
  have htwice : (2 : ℚ) ^ (971 : Int) = 2 * p := hp ▸ hnext 970
  have hfour : (2 : ℚ) ^ (972 : Int) = 2 * (2 * p) := htwice ▸ hnext 971
  rw [hp]
  obtain rfl | hn := Nat.eq_zero_or_pos num
  · refine iff_of_true rfl ?_
    rw [Nat.cast_zero]
    exact mul_pos (by norm_num) hpos
  obtain ⟨-, hlarge, hsmall⟩ := normalExponent_whole hn
  rw [isFinite_ofRatio hn rfl]
  generalize normalExponent num 1 = e at *
  rcases lt_trichotomy e 971 with hlt | rfl | hgt
  · have hle : (2 : ℚ) ^ e ≤ p := hp ▸ hmono (by omega)
    exact iff_of_true (.inl hlt) (by linarith only [hle, hsmall, hpos])
  · rw [htwice]
    constructor
    · rintro (h | ⟨-, h⟩)
      · omega
      · linarith only [h]
    · intro h
      exact .inr ⟨rfl, by linarith only [h]⟩
  · have hge : 2 * (2 * p) ≤ (2 : ℚ) ^ e := hfour ▸ hmono (by omega)
    refine iff_of_false ?_ ?_
    · rintro (h | ⟨h, -⟩) <;> omega
    · rw [not_lt]
      linarith only [hge, hlarge, hpos]

end MacroStubs.Binary64
