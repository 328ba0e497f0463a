import MacroStubs.Literal.Render
import MacroStubs.Proofs.Literal.Printed

/-! # Defaults read back

Of the values that are built from data, functions and classes, exactly those that are plain data through and
through have a literal text. It is their printed form, and denotes an equal value of the same classes. What
prints in a way of its own escapes this: its text may denote something else.
-/

namespace MacroStubs

namespace Value
open Literal

variable {labels : Labels} {depth : Nat} {v w : Value} {text : List Char}

/-- Whether a value is of a kind that programs write down: data, whose whole numbers can be printed, functions
and classes. -/
def isBuiltPart : Value → Bool
  | int n => (Nat.toDigits 10 n.natAbs).length ≤ maxDigits
  | function .. => true
  | wrapped .. => true
  | native _ => true
  | builtin _ => true
  | cls _ => true
  | v => v.isDatumPart

theorem isKnownPart_of_isBuiltPart (v : Value) (h : v.isBuiltPart = true) : v.isKnownPart labels = true := by
  cases v <;> first | rfl | cases h

section Success

/-- Whether a value is printed, or fails to be because of a whole number in it that literals do not hold. -/
def Prints (labels : Labels) (depth : Nat) (v : Value) : Prop :=
  (∃ text, print labels depth v = .ok text) ∨
    print labels depth v = .error .tooManyDigits ∧ v.isLiteral = false

theorem prints_range (start stop step : Int) : Prints labels depth (range start stop step) := by
  have hint (n : Int) : (∃ text, printInt n = .ok text) ∨ printInt n = .error .tooManyDigits := by
    rw [printInt]
    split
    · exact .inr rfl
    · exact .inl ⟨_, rfl⟩
  have hlit : (range start stop step).isLiteral = false := rfl
  rw [Prints, print]
  rcases hint start with ⟨first, h⟩ | h <;> rw [h]
  · rcases hint stop with ⟨second, h⟩ | h <;> rw [h]
    · rcases hint step with ⟨third, h⟩ | h <;> rw [h]
      · split
        · exact .inl ⟨_, rfl⟩
        · exact .inl ⟨_, rfl⟩
      · split
        · exact .inl ⟨_, rfl⟩
        · exact .inr ⟨rfl, hlit⟩
    · exact .inr ⟨by split <;> rfl, hlit⟩
  · exact .inr ⟨by split <;> rfl, hlit⟩

theorem isLiteral_eq_false (hw : w ∈ v.contents) (h : w.isLiteral = false) : v.isLiteral = false :=
  Bool.eq_false_iff.mpr fun hv => Bool.eq_false_iff.mp h ((every_iff.mp hv).2 w hw)

/-- What is built and not nested too deep is printed, unless it holds a range of numbers too large. -/
theorem prints_of_isBuilt (hb : v.every isBuiltPart = true) (hn : v.nesting ≤ depth) :
    Prints labels depth v := by
  induction v using induction_contents generalizing depth with
  | h v ih =>
    obtain ⟨hpart, hcontents⟩ := every_iff.mp hb
    have hleaf {text : List Char} (h : print labels depth v = .ok text) : Prints labels depth v :=
      .inl ⟨text, h⟩
    have hcontainer (hpos : 0 < v.nesting) : Prints labels depth v := by
      cases hprint : print labels depth v with
      | ok text => exact hleaf hprint
      | error failure =>
        rcases exists_contents_of_print hpos hprint with ⟨rfl, -⟩ | ⟨d, rfl, w, hw, herror⟩
        · omega
        have hlt := nesting_lt_of_mem_contents hw
        rcases ih w hw (hcontents w hw) (show w.nesting ≤ d by omega) with ⟨text, htext⟩ | ⟨htooMany, hlit⟩
        · cases htext.symm.trans herror
        · obtain rfl : failure = .tooManyDigits := Except.error.inj (herror.symm.trans htooMany)
          exact .inr ⟨hprint, isLiteral_eq_false hw hlit⟩
    cases v with
    | int n =>
      have hshort : ¬ maxDigits < (Nat.toDigits 10 n.natAbs).length := not_lt.mpr (of_decide_eq_true hpart)
      exact hleaf (by rw [print, printInt]; exact if_neg hshort)
    | bool b => cases b <;> exact hleaf rfl
    | list | tuple | set | frozenset | dict | mappingproxy => exact hcontainer (Nat.succ_pos _)
    | range start stop step => exact prints_range start stop step
    | null | float | complex | str | bytes | bytearray | ellipsis | function | wrapped | native
    | builtin | cls =>
      exact hleaf rfl
    | _ => cases hpart

end Success
section Reading

/-- A printed form is read as what becomes of the value, unless it is nested too deep. -/
theorem Written.read_eq_or (h : Written v text) : Literal.read text = denoted v.isLiteral v.reread ∨
    Literal.read text = .error .malformed := by
  cases h with
  | spelled h he => exact he ▸ h.read_eq_or
  | broken hv h =>
    obtain ⟨pre, ps, junk, rfl, hb⟩ := h
    exact .inr (hb.read_eq junk)

theorem Written.read_eq (h : Written v text) (hn : 2 * v.nesting + 1 ≤ safeLevel) :
    Literal.read text = denoted v.isLiteral v.reread := by
  cases h with
  | spelled h he => exact he ▸ h.read_eq hn
  | broken hv h =>
    obtain ⟨pre, ps, junk, rfl, hb⟩ := h
    rw [hv]
    exact hb.read_eq junk

/-- A literal text is a printed form that denotes something. -/
theorem literal?_eq_some : literal? labels v = .ok (some text) ↔
    printed labels v = .ok text ∧ ∃ w, Literal.read text = .ok w := by
  rw [literal?]
  constructor
  · intro h
    split at h
    · rename_i text' hprinted
      split at h
      · rename_i w hread
        cases h
        exact ⟨hprinted, w, hread⟩
      · cases h
      · cases h
    · split at h <;> cases h
  · rintro ⟨hprinted, w, hread⟩
    rw [hprinted]
    dsimp only
    rw [hread]
    rfl

/-- Plain data and nothing else of what is built have a literal text, which is their printed form and denotes
an equal value of the same classes. -/
theorem literal_of_isBuilt (labels : Labels) (v : Value) (hb : v.every isBuiltPart = true)
    (hp : v.isProper = true) (hn : v.nesting ≤ 50) :
    (v.isLiteral = true → ∃ text, literal? labels v = .ok (some text) ∧ printed labels v = .ok text ∧
      ∃ w, Literal.read text = .ok w ∧ same v w = true ∧ alike v w = true) ∧
    (v.isLiteral = false → literal? labels v = .ok none) := by
  have hwritten {text : List Char} (h : printed labels v = .ok text) :
      Literal.read text = denoted v.isLiteral v.reread := by
    refine (written_of_print (every_mono isKnownPart_of_isBuiltPart v hb) hp h).read_eq ?_
    rw [safeLevel]
    omega
  rcases (prints_of_isBuilt hb (hn.trans (by decide)) : Prints labels maxNesting v) with
    ⟨text, htext⟩ | ⟨herror, hlit⟩
  · have hprinted : printed labels v = .ok text := htext
    have hread := hwritten hprinted
    constructor <;> intro hlit <;> rw [hlit] at hread
    · have halike := alike_reread hlit
      exact ⟨text, literal?_eq_some.mpr ⟨hprinted, _, hread⟩, hprinted, _, hread, same_of_alike halike,
        halike⟩
    · rw [literal?, hprinted]
      dsimp only
      rw [hread]
      rfl
  · have hprinted : printed labels v = .error .tooManyDigits := herror
    refine ⟨fun h => absurd h (by rw [hlit]; exact Bool.false_ne_true), fun _ => ?_⟩
    rw [literal?, hprinted]
    rfl

/-- Nested data have a literal text, and none if a frozen set is among them. -/
theorem literal_of_nested :
    literal? (Labels.plain "0x0")
      (list [tuple [int (-1)], dict [(str "it's", set [float (.finite false (2 ^ 52) (-53))])],
        complex (.zero true) (.finite true (2 ^ 52) (-52))]) =
      .ok (some "[(-1,), \x7b\"it's\": \x7b0.5\x7d\x7d, (-0-1j)]".toList) ∧
    literal? (Labels.plain "0x0") (list [tuple [int (-1)], dict [(str "it's", frozenset [])]]) =
      .ok none := by
  constructor
  · obtain ⟨text, htext, hprinted, -⟩ := (literal_of_isBuilt (Labels.plain "0x0") (list [tuple [int (-1)],
      dict [(str "it's", set [float (.finite false (2 ^ 52) (-53))])],
      complex (.zero true) (.finite true (2 ^ 52) (-52))]) rfl rfl (by decide)).1 rfl
    cases hprinted
    exact htext
  · exact (literal_of_isBuilt _ _ rfl rfl (by decide)).2 rfl

/-- What has a literal text and does not print in a way of its own is plain data that the text denotes. -/
theorem isLiteral_of_text (labels : Labels) (v : Value) (text : List Char)
    (hk : v.every (isKnownPart labels) = true) (hp : v.isProper = true)
    (h : literal? labels v = .ok (some text)) : printed labels v = .ok text ∧ v.isLiteral = true ∧
      ∃ w, Literal.read text = .ok w ∧ same v w = true ∧ alike v w = true := by
  obtain ⟨hprinted, w, hread⟩ := literal?_eq_some.mp h
  have hw : denoted v.isLiteral v.reread = .ok w := by
    rcases (written_of_print hk hp hprinted).read_eq_or with h | h
    · rw [← h, hread]
    · rw [hread] at h
      cases h
  cases hlit : v.isLiteral with
  | false =>
    rw [hlit] at hw
    cases hw
  | true =>
    rw [hlit] at hw
    cases hw
    have halike := alike_reread hlit
    exact ⟨hprinted, rfl, _, hread, same_of_alike halike, halike⟩

/-- The text of a pair denotes the pair. -/
theorem isLiteral_of_pair : (tuple [str "a", int 1]).isLiteral = true ∧
    ∃ w, Literal.read "('a', 1)".toList = .ok w ∧ same (tuple [str "a", int 1]) w = true := by
  have hprinted : printed (Labels.plain "0x0") (tuple [str "a", int 1]) = .ok "('a', 1)".toList := rfl
  have hwritten : Written (tuple [str "a", int 1]) "('a', 1)".toList := written_of_print rfl rfl hprinted
  have hread := hwritten.read_eq (by decide)
  obtain ⟨-, hlit, w, hw, hsame, -⟩ :=
    isLiteral_of_text _ _ _ rfl rfl (literal?_eq_some.mpr ⟨hprinted, _, hread⟩)
  exact ⟨hlit, w, hw, hsame⟩

/-- An object that prints as a number has a literal text, which denotes the number. -/
theorem custom_has_text : literal? (Labels.plain "0x0") (custom (str "1")) = .ok (some ['1']) ∧
    Literal.read ['1'] = .ok (int 1) ∧ same (custom (str "1")) (int 1) = false := by
  have hread : Literal.read ['1'] = .ok (int 1) := rfl
  refine ⟨literal?_eq_some.mpr ⟨rfl, _, hread⟩, hread, ?_⟩
  simp [same, identity?, sameNumber, int?, parts?]

end Reading
end Value
end MacroStubs
