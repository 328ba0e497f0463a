import MacroStubs.Literal.Numeral
import MacroStubs.Proofs.Number.Decimal
import Mathlib.Data.Bool.AllAny

/-! # Numerals read back

A numeral in front of a mark that belongs to no number is read as the number it denotes.
-/

namespace MacroStubs.Literal
open Number

variable {rest : List Char} {t : Numeral}

/-- Whether nothing of a text belongs to an item before it: it is empty or begins with a mark. -/
def Ends (rest : List Char) : Prop :=
  ∀ c ∈ rest.head?, c ∈ [',', ')', ']', '\x7d', ':', '+', '-']

/-- Whether no digits go on in a text. -/
def Stops (rest : List Char) : Prop :=
  ∀ c ∈ rest.head?, isDigit c = false ∧ c ≠ '_'

theorem digitTail?_append {ds : List Char} (hds : ∀ c ∈ ds, isDigit c = true) (h : Stops rest) :
    digitTail? isDigit (ds ++ rest) = some (ds, rest) := by
  induction ds with
  | nil =>
    cases rest with
    | nil => rfl
    | cons c rest =>
      obtain ⟨hdigit, hlow⟩ := h c rfl
      rw [List.nil_append]
      unfold digitTail?
      split <;> simp_all
  | cons d ds ih =>
    obtain ⟨hd, hds⟩ := List.forall_mem_cons.mp hds
    have hlow : d ≠ '_' := by rintro rfl; exact absurd hd (by decide)
    rw [List.cons_append]
    unfold digitTail?
    split <;> simp_all

theorem digitRun?_append {ds : List Char} (hds : ∀ c ∈ ds, isDigit c = true) (h : Stops rest) :
    digitRun? isDigit (ds ++ rest) = some (ds, rest) := by
  cases ds with
  | nil =>
    cases rest with
    | nil => rfl
    | cons c rest => simp [digitRun?, (h c rfl).1]
  | cons d ds =>
    obtain ⟨hd, hds⟩ := List.forall_mem_cons.mp hds
    rw [List.cons_append, digitRun?, if_pos hd, digitTail?_append hds h]
    rfl

/-- An exponent is written with a sign and digits, which a zero may lead. -/
theorem exponentText_eq (x : Int) : ∃ ds, exponentText x = 'e' :: (if x < 0 then '-' else '+') :: ds ∧
    ds ≠ [] ∧ (∀ c ∈ ds, isDigit c = true) ∧ natOfDigits ds = x.natAbs := by
  have hall : ∀ c ∈ Nat.toDigits 10 x.natAbs, isDigit c = true := fun c => isDigit_of_mem_toDigits
  by_cases hshort : (Nat.toDigits 10 x.natAbs).length < 2
  · refine ⟨'0' :: Nat.toDigits 10 x.natAbs, by rw [exponentText, if_pos hshort], List.cons_ne_nil _ _,
      List.forall_mem_cons.mpr ⟨by decide, hall⟩, ?_⟩
    exact (natOfDigits_leading_zeros 1 _).trans (natOfDigits_toDigits _)
  · exact ⟨Nat.toDigits 10 x.natAbs, by rw [exponentText, if_neg hshort],
      List.ne_nil_of_length_pos Nat.length_toDigits_pos, hall, natOfDigits_toDigits _⟩

theorem exponent?_exponentText (x : Int) (h : Stops rest) :
    exponent? (exponentText x ++ rest) = some (some x, rest) := by
  obtain ⟨ds, htext, hne, hall, hvalue⟩ := exponentText_eq x
  obtain ⟨d, ds, rfl⟩ := List.exists_cons_of_ne_nil hne
  have hrun := digitRun?_append hall h
  rw [List.cons_append] at hrun
  rw [htext]
  by_cases hx : x < 0
  · have habs : -(x.natAbs : Int) = x := by omega
    simp [hx, exponent?, hrun, hvalue, habs, -Nat.cast_natAbs]
  · have habs : (x.natAbs : Int) = x := by omega
    simp [hx, exponent?, hrun, hvalue, habs, -Nat.cast_natAbs]

theorem wordFollows_exponentText (x : Int) (rest : List Char) :
    wordFollows (exponentText x ++ rest) = false := by
  obtain ⟨ds, htext, -⟩ := exponentText_eq x
  rw [htext]
  by_cases hx : x < 0
  · simp [hx, wordFollows, wordsBehindNumber, List.isPrefixOf]
  · simp [hx, wordFollows, wordsBehindNumber, List.isPrefixOf]

/-- Whether a text behind a numeral begins with the imaginary mark or with nothing of an item. -/
def Closes (rest : List Char) : Prop :=
  ∀ c ∈ rest.head?, c ∈ ['j', ',', ')', ']', '\x7d', ':', '+', '-']

theorem Closes.stops (h : Closes rest) : Stops rest := by
  intro c hc
  have hmarks : ∀ c ∈ ['j', ',', ')', ']', '\x7d', ':', '+', '-'], isDigit c = false ∧ c ≠ '_' :=
    List.all_iff_forall_prop.mp (by decide)
  exact hmarks c (h c hc)

theorem Closes.exponent? (h : Closes rest) : exponent? rest = some (none, rest) := by
  cases rest with
  | nil => rfl
  | cons c rest =>
    have hmarks : ∀ c ∈ ['j', ',', ')', ']', '\x7d', ':', '+', '-'], ¬ (c = 'e' ∨ c = 'E') :=
      List.all_iff_forall_prop.mp (by decide)
    unfold Number.exponent?
    exact if_neg (hmarks c (h c rfl))

theorem Closes.wordFollows (h : Closes rest) : wordFollows rest = false := by
  cases rest with
  | nil => rfl
  | cons c rest =>
    have hmarks : ∀ c ∈ ['j', ',', ')', ']', '\x7d', ':', '+', '-'],
        ∀ w ∈ wordsBehindNumber, w.toList ≠ [] ∧ w.toList.head? ≠ some c :=
      List.all_iff_forall_prop.mp (by decide)
    rw [Literal.wordFollows, List.any_eq_false]
    intro w hw
    obtain ⟨hne, hhead⟩ := hmarks c (h c rfl) w hw
    obtain ⟨d, ds, hword⟩ := List.exists_cons_of_ne_nil hne
    rw [hword] at hhead ⊢
    simp [List.isPrefixOf, show d ≠ c from fun h => hhead (congrArg some h)]

/-- What is read once all parts of a numeral are known: the imaginary mark decides. -/
def numberOf (t : Numeral) : List Char → Option (Value × List Char)
  | 'j' :: r => ended (.complex (.zero false) (t.parts.value false)) r
  | 'J' :: r => ended (.complex (.zero false) (t.parts.value false)) r
  | r =>
    if t.fraction.isSome || t.exponent.isSome then ended (.float (t.parts.value false)) r
    else wholeNumber? t.whole r

/-- The parts of a numeral behind its whole digits. -/
theorem decimal?_numeral (ht : t.IsProper) (h : Closes rest) : decimal? t.whole
    (t.fraction.elim [] (fun ds => '.' :: ds) ++ (t.exponent.elim [] exponentText ++ rest)) =
      numberOf t rest := by
  have hne : t.whole ≠ [] := by
    rcases ht.head with h | ⟨c, ds, h, -⟩ <;> rw [h] <;> exact List.cons_ne_nil _ _
  obtain ⟨whole, fraction, exponent⟩ := t
  -- first what stands behind the fraction
  obtain ⟨hword, hexponent, hstops, hpoint⟩ :
      let tail := exponent.elim [] exponentText ++ rest
      wordFollows tail = false ∧ exponent? tail = some (exponent, rest) ∧ Stops tail ∧
        ∀ r, tail ≠ '.' :: r := by
    cases exponent with
    | none =>
      refine ⟨h.wordFollows, h.exponent?, h.stops, ?_⟩
      rintro r rfl
      exact absurd (h '.' rfl) (by decide)
    | some x =>
      refine ⟨wordFollows_exponentText x rest, exponent?_exponentText x h.stops, ?_⟩
      obtain ⟨ds, htext, -⟩ := exponentText_eq x
      simp [htext, Stops]
      decide
  dsimp only at *
  generalize exponent.elim [] exponentText ++ rest = tail at *
  unfold decimal? numberOf
  cases fraction with
  | none =>
    rw [Option.elim, List.nil_append]
    split
    · exact absurd rfl (hpoint _)
    · simp [hne, hword, hexponent]
      rfl
  | some ds =>
    rw [Option.elim, List.cons_append]
    simp [hne, hword, hexponent, digitRun?_append (ht.fraction ds rfl) hstops]
    rfl

theorem ended_of_ends {α : Type} (v : α) (h : Ends rest) : ended v rest = some (v, rest) := by
  cases rest with
  | nil => rfl
  | cons c rest =>
    have hmarks : ∀ c ∈ [',', ')', ']', '\x7d', ':', '+', '-'], isWordChar c = false :=
      List.all_iff_forall_prop.mp (by decide)
    simp [ended, hmarks c (h c rfl)]

theorem Ends.closes (h : Ends rest) : Closes rest := fun c hc => List.mem_cons_of_mem 'j' (h c hc)

/-- The digits before a point are read first. -/
theorem number?_of_whole (ht : t.IsProper) (h : Stops rest)
    (hbase : ∀ c ∈ rest.head?, baseOf? c = none) : number? (t.whole ++ rest) = decimal? t.whole rest := by
  have hrun := digitRun?_append ht.whole h
  rcases ht.head with hzero | ⟨c, ds, hcons, hc⟩
  · rw [hzero] at hrun ⊢
    cases rest with
    | nil => rfl
    | cons d rest =>
      rw [List.singleton_append] at hrun ⊢
      rw [number?, hbase d rfl]
      simp [hrun]
  · rw [hcons] at hrun ⊢
    rw [List.cons_append] at hrun ⊢
    unfold number?
    split
    · rename_i heq
      exact absurd (List.cons.inj heq).1 hc
    · simp [hrun]

/-- What may follow the digits of a numeral. -/
theorem head_tail (h : Closes rest) : ∀ c ∈ (t.fraction.elim [] (fun ds => '.' :: ds) ++
    (t.exponent.elim [] exponentText ++ rest)).head?,
      c ∈ ['.', 'e', 'j', ',', ')', ']', '\x7d', ':', '+', '-'] := by
  cases t.fraction with
  | some ds => simp
  | none =>
    cases t.exponent with
    | some x =>
      obtain ⟨ds, htext, -⟩ := exponentText_eq x
      simp [htext]
    | none => exact fun c hc => List.mem_cons_of_mem _ (List.mem_cons_of_mem _ (h c hc))

theorem number?_eq (ht : t.IsProper) (h : Closes rest) : number? (t.text ++ rest) = numberOf t rest := by
  have hmarks : ∀ c ∈ ['.', 'e', 'j', ',', ')', ']', '\x7d', ':', '+', '-'],
      (isDigit c = false ∧ c ≠ '_') ∧ (baseOf? c).isNone = true :=
    List.all_iff_forall_prop.mp (by decide)
  rw [Numeral.text, List.append_assoc, List.append_assoc, number?_of_whole ht, decimal?_numeral ht h]
  · exact fun c hc => (hmarks c (head_tail h c hc)).1
  · exact fun c hc => Option.isNone_iff_eq_none.mp (hmarks c (head_tail h c hc)).2

theorem wholeNumber?_eq (ht : t.IsProper) (hwhole : t.isWhole = true) (h : Ends rest) :
    wholeNumber? t.whole rest = some (.int (natOfDigits t.whole), rest) := by
  have hshort : ¬ maxLiteralDigits < t.whole.length := not_lt.mpr (ht.short hwhole)
  rw [wholeNumber?]
  rcases ht.head with hzero | ⟨c, ds, hcons, hc⟩
  · rw [hzero]
    exact ended_of_ends _ h
  · rw [if_neg (by rw [hcons]; simpa using hc), if_neg hshort]
    exact ended_of_ends _ h

/-- A numeral without a mark behind it is read as the whole number or the double it denotes. -/
theorem number?_of_numeral (ht : t.IsProper) (h : Ends rest) : number? (t.text ++ rest) =
    some (if t.isWhole then .int (natOfDigits t.whole) else .float (t.parts.value false), rest) := by
  rw [number?_eq ht h.closes]
  unfold numberOf
  split
  · exact absurd (h 'j' rfl) (by decide)
  · exact absurd (h 'J' rfl) (by decide)
  · have hparts : (t.fraction.isSome || t.exponent.isSome) = !t.isWhole := by
      obtain ⟨whole, fraction, exponent⟩ := t
      cases fraction <;> cases exponent <;> rfl
    rw [hparts]
    cases hwhole : t.isWhole with
    | true => exact wholeNumber?_eq ht hwhole h
    | false => exact ended_of_ends _ h

/-- A numeral with the imaginary mark is read as the imaginary number. -/
theorem number?_of_imaginary (ht : t.IsProper) (h : Ends rest) : number? (t.text ++ 'j' :: rest) =
    some (.complex (.zero false) (t.parts.value false), rest) := by
  have hcloses : Closes ('j' :: rest) := by
    rintro c ⟨rfl⟩
    decide
  rw [number?_eq ht hcloses]
  exact ended_of_ends _ h

end MacroStubs.Literal
