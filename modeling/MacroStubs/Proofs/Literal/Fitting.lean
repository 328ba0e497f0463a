import MacroStubs.Literal.Depth
import MacroStubs.Value.Print
import MacroStubs.Proofs.Literal.Lexing
import MacroStubs.Proofs.Literal.Grade

/-! # Texts that fit into expressions

Texts whose tokens leave brackets and depth as they find them, and what becomes of them between brackets.
-/

namespace MacroStubs.Literal
open Token

variable {level level' : Nat} {text : List Char} {ts : List Token} {c : Char}

/-- How many steps an expression may take in which brackets nest so deep. -/
def stepsOf (level : Nat) : Nat := 31 * level + 30

/-- Whether reading stands where an item may begin. -/
structure Depth.AtItem (d : Depth) : Prop where
  behindOperand : d.behindOperand = false
  steps : ∀ b ∈ d.opened.head?, d.steps ≤ b.steps

/-- Whether reading stands behind an item in which brackets nest so deep. -/
structure Depth.Passes (level : Nat) (d d' : Depth) : Prop where
  opened : d'.opened = d.opened
  steps : d'.steps ≤ d.steps + 1
  deepest : d'.deepest ≤ max d.deepest (d.steps + stepsOf level)

/-- Whether a text is cut into tokens that may stand as an item in an expression. -/
structure Fits (level : Nat) (text : List Char) (ts : List Token) : Prop where
  lexes : Lexes Ends text ts
  length : ts.length ≤ text.length
  clean : IsClean text
  head : ∃ c cs, text = c :: cs ∧ c ∉ spaces
  brackets : ∀ opened, opened.length + level ≤ maxBrackets →
    ts.foldlM Token.brackets? opened = some opened
  depth : ∀ d : Depth, d.AtItem → d.Passes level (ts.foldl Depth.next d)

theorem Fits.mono (h : Fits level text ts) (hl : level ≤ level') : Fits level' text ts where
  lexes := h.lexes
  length := h.length
  clean := h.clean
  head := h.head
  brackets opened ho := h.brackets opened (by omega)
  depth d hd := by
    obtain ⟨hopened, hsteps, hdeepest⟩ := h.depth d hd
    exact ⟨hopened, hsteps, by simp only [stepsOf] at *; omega⟩

theorem IsClean.append {text' : List Char} (h : IsClean text) (h' : IsClean text') :
    IsClean (text ++ text') :=
  fun c hc => (List.mem_append.mp hc).elim (h c) (h' c)

theorem IsClean.cons (hc : 32 ≤ c.toNat) (h : IsClean text) : IsClean (c :: text) :=
  List.forall_mem_cons.mpr ⟨hc, h⟩

/-- The tokens that are items on their own: constants and names. -/
def IsAlone : Token → Prop
  | number _ => True
  | quotation _ => True
  | symbol s => s ∈ ["None", "True", "False"]
  | name _ => True

section Constants

variable {t : Token} {cs : List Char}

theorem IsAlone.brackets?_eq (ht : IsAlone t) (opened : List String) :
    t.brackets? opened = some opened := by
  cases t with
  | name word => rfl
  | number v => rfl
  | quotation q => rfl
  | symbol s =>
    simp only [IsAlone, List.mem_cons, List.not_mem_nil, or_false] at ht
    rcases ht with rfl | rfl | rfl <;> simp [Token.brackets?, Literal.brackets?, List.lookup_cons]

theorem IsAlone.next_eq (ht : IsAlone t) (d : Depth) : ∃ k ≤ 25, ∃ behind,
    d.next t = { d.attempt k with behindOperand := behind } := by
  cases t with
  | name word => exact ⟨leafSteps, by decide, true, rfl⟩
  | number v => exact ⟨leafSteps, by decide, true, rfl⟩
  | quotation q => exact ⟨quotationSteps, by decide, true, rfl⟩
  | symbol s =>
    simp only [IsAlone, List.mem_cons, List.not_mem_nil, or_false] at ht
    exact ⟨leafSteps, by decide, false, by rcases ht with rfl | rfl | rfl <;> rfl⟩

/-- A constant or a name is an item. -/
theorem fits_alone (ht : IsAlone t) (hlexes : Lexes Ends (c :: cs) [t]) (hclean : IsClean (c :: cs))
    (hc : c ∉ spaces) : Fits 0 (c :: cs) [t] where
  lexes := hlexes
  length := Nat.succ_le_succ (Nat.zero_le _)
  clean := hclean
  head := ⟨c, cs, rfl, hc⟩
  brackets opened _ := by simp [ht.brackets?_eq]
  depth d _ := by
    obtain ⟨k, hk, behind, hnext⟩ := ht.next_eq d
    rw [List.foldl_cons, List.foldl_nil, hnext]
    refine ⟨rfl, Nat.le_succ _, ?_⟩
    simp only [Depth.attempt, stepsOf]
    omega

/-- A sign goes one step deeper at most. -/
theorem next_sign (d : Depth) {s : String} (hs : s = "+" ∨ s = "-") : ∃ steps ≤ d.steps + 1,
    d.next (symbol s) = { d with steps := steps, behindOperand := false }.attempt leafSteps := by
  cases hb : d.behindOperand with
  | false => exact ⟨d.steps + 1, le_rfl, by rcases hs with rfl | rfl <;> simp [Depth.next, hb]⟩
  | true =>
    refine ⟨d.steps, Nat.le_succ _, ?_⟩
    rcases hs with rfl | rfl <;> simp [Depth.next, hb, nestingSymbols, Depth.attempt]

/-- A sign in front of a digit or a letter is a token of its own. -/
theorem lexes_sign (hc : isWordChar c = true) {s : Char} (hs : s = '+' ∨ s = '-') :
    Lexes (fun rest => rest.head? = some c) [s] [symbol (String.singleton s)] := by
  refine lexes_mark (by rcases hs with rfl | rfl <;> decide) fun rest hrest _ d hd => ?_
  rw [hrest] at hd
  cases hd
  constructor <;> rintro rfl <;> exact absurd hc (by decide)

/-- The tokens that may stand behind a sign. -/
def IsUnit : Token → Prop
  | number _ => True
  | name _ => True
  | _ => False

theorem IsUnit.next_eq (ht : IsUnit t) (d : Depth) :
    d.next t = { d.attempt leafSteps with behindOperand := true } := by
  cases t with
  | name word => rfl
  | number v => rfl
  | quotation q => cases ht
  | symbol s => cases ht

/-- A sign may stand before a number or a name. -/
theorem Fits.signed (h : Fits 0 (c :: cs) [t]) (ht : IsUnit t) (hc : isWordChar c = true) :
    Fits 0 ('-' :: c :: cs) [symbol "-", t] where
  lexes := (lexes_sign hc (.inr rfl)).append h.lexes fun _ _ => rfl
  length := Nat.succ_le_succ h.length
  clean := h.clean.cons (by decide)
  head := ⟨'-', _, rfl, by decide⟩
  brackets opened ho := by
    rw [List.foldlM_cons]
    exact h.brackets opened ho
  depth d hd := by
    obtain ⟨steps, hsteps, hsign⟩ := next_sign d (.inr rfl)
    rw [List.foldl_cons, List.foldl_cons, List.foldl_nil, hsign, ht.next_eq]
    refine ⟨rfl, hsteps, ?_⟩
    simp only [Depth.attempt, stepsOf, leafSteps]
    omega

end Constants

section Brackets

variable {d : Depth} {outer limit : Nat} {opened : List OpenBracket}

/-- Whether reading stands within a bracket that was opened after so many steps. -/
structure Depth.Within (outer limit : Nat) (opened : List OpenBracket) (d : Depth) : Prop where
  opened : ∃ b, d.opened = b :: opened ∧ b.outer = outer
  deepest : d.deepest ≤ limit

theorem OpenBracket.steps_le (b : OpenBracket) : b.steps ≤ b.outer + 31 := by
  have hle : bracketSteps b.text b.items ≤ 31 := by
    unfold bracketSteps
    generalize (b.text == "(") = round
    cases round <;> rcases b.items with _ | _ | _ <;> simp
  exact Nat.add_le_add_left hle b.outer

namespace Depth.Within

theorem steps_le (h : d.Within outer limit opened) (hi : d.AtItem) : d.steps ≤ outer + 31 := by
  obtain ⟨⟨b, hb, rfl⟩, -⟩ := h
  have hsteps := hi.steps b (by rw [hb]; rfl)
  have hle := b.steps_le
  omega

theorem comma (h : d.Within outer limit opened) (hl : outer + stepsOf 1 ≤ limit) :
    (d.next (symbol ",")).Within outer limit opened ∧ (d.next (symbol ",")).AtItem := by
  obtain ⟨⟨b, hb, ho⟩, hd⟩ := h
  have hnext : d.next (symbol ",") = d.nextItem := rfl
  have hle := ({ b with items := b.items + 1 } : OpenBracket).steps_le
  rw [hnext, Depth.nextItem, hb]
  refine ⟨⟨⟨_, rfl, ho⟩, ?_⟩, rfl, ?_⟩
  · simp only [Depth.attempt, stepsOf, leafSteps] at *
    omega
  · rintro _ ⟨rfl⟩
    rfl

theorem colon (h : d.Within outer limit opened) (hl : outer + stepsOf 1 ≤ limit) :
    (d.next (symbol ":")).Within outer limit opened ∧ (d.next (symbol ":")).AtItem := by
  obtain ⟨⟨b, hb, ho⟩, hd⟩ := h
  have hnext : d.next (symbol ":") =
      { d with
        steps := (d.opened.head?.map OpenBracket.steps).getD d.steps
        behindOperand := false }.attempt leafSteps := rfl
  have hle := b.steps_le
  rw [hnext, hb]
  refine ⟨⟨⟨b, rfl, ho⟩, ?_⟩, rfl, ?_⟩
  · simp only [Depth.attempt, stepsOf, leafSteps, List.head?_cons, Option.map_some, Option.getD_some] at *
    omega
  · rintro _ ⟨rfl⟩
    rfl

end Depth.Within

/-- Whether a text is cut into tokens that may stand between brackets. -/
structure IsPart (level : Nat) (text : List Char) (ts : List Token) : Prop where
  lexes : Lexes Ends text ts
  length : ts.length ≤ text.length
  clean : IsClean text
  brackets : ∀ opened, opened.length + level ≤ maxBrackets →
    ts.foldlM Token.brackets? opened = some opened
  within : ∀ d outer limit opened, Depth.Within outer limit opened d → d.AtItem →
    outer + stepsOf (level + 1) ≤ limit → (ts.foldl Depth.next d).Within outer limit opened

theorem ends_of_mem (hc : c ∈ [',', ')', ']', '\x7d', ':', '+', '-']) (rest : List Char) :
    Ends (c :: rest) := by
  rintro _ ⟨rfl⟩
  exact hc

theorem Fits.isPart (h : Fits level text ts) : IsPart level text ts where
  lexes := h.lexes
  length := h.length
  clean := h.clean
  brackets := h.brackets
  within d outer limit opened hd hi hl := by
    have hpasses := h.depth d hi
    have hsteps := hd.steps_le hi
    have hdeepest := hpasses.deepest
    refine ⟨hpasses.opened ▸ hd.opened, ?_⟩
    have := hd.deepest
    simp only [stepsOf] at *
    omega

/-- The key and the value of an entry. -/
theorem Fits.entry {value : List Char} {vs : List Token} (hk : Fits level text ts)
    (hv : Fits level value vs) :
    IsPart level (text ++ ':' :: ' ' :: value) (ts ++ symbol ":" :: vs) where
  lexes := hk.lexes.append hv.lexes.colon fun rest _ => ends_of_mem (by decide) _
  length := by
    have := hk.length
    have := hv.length
    simp only [List.length_append, List.length_cons]
    omega
  clean := hk.clean.append (.cons (by decide) (hv.clean.cons (by decide)))
  brackets opened ho := by
    rw [List.foldlM_append, hk.brackets opened ho, Option.bind_eq_bind, Option.bind_some]
    exact hv.brackets opened ho
  within d outer limit opened hd hi hl := by
    have hkey := hk.isPart.within d outer limit opened hd hi hl
    obtain ⟨hcolon, hi⟩ := hkey.colon (by simp only [stepsOf] at *; omega)
    rw [List.foldl_append, List.foldl_cons]
    exact hv.isPart.within _ outer limit opened hcolon hi hl

/-- A comma behind an item. -/
theorem Fits.comma (h : Fits level text ts) : IsPart level (text ++ [',']) (ts ++ [symbol ","]) where
  lexes :=
    (h.lexes.append (lexes_bracket (c := ',') (by decide)) fun rest _ => ends_of_mem (by decide) rest).weaken
      fun _ _ => trivial
  length := by
    have := h.length
    simp only [List.length_append, List.length_cons]
    omega
  clean := h.clean.append (isClean_of_all (by decide))
  brackets opened ho := by
    rw [List.foldlM_append, h.brackets opened ho]
    rfl
  within d outer limit opened hd hi hl := by
    have hitem := h.isPart.within d outer limit opened hd hi hl
    rw [List.foldl_append]
    exact (hitem.comma (by simp only [stepsOf] at *; omega)).1

/-- The sum of a number and an unsigned one. -/
theorem Fits.sum {cs : List Char} {t : Token} {s : Char} (h : Fits 0 text ts) (hs : s = '+' ∨ s = '-')
    (h' : Fits 0 (c :: cs) [t]) (ht : IsUnit t) (hc : isWordChar c = true) :
    IsPart 0 (text ++ s :: c :: cs) (ts ++ [symbol (String.singleton s), t]) where
  lexes := by
    have hsign := (lexes_sign hc hs).append h'.lexes fun _ _ => rfl
    exact h.lexes.append hsign fun rest _ => ends_of_mem (by rcases hs with rfl | rfl <;> decide) _
  length := by
    have := h.length
    simp only [List.length_append, List.length_cons, List.length_nil]
    omega
  clean := h.clean.append (h'.clean.cons (by rcases hs with rfl | rfl <;> decide))
  brackets opened ho := by
    have hsign : Token.brackets? opened (symbol (String.singleton s)) = some opened := by
      rcases hs with rfl | rfl <;> rfl
    rw [List.foldlM_append, h.brackets opened ho, Option.bind_eq_bind, Option.bind_some,
      List.foldlM_cons, hsign]
    exact h'.brackets opened ho
  within d outer limit opened hd hi hl := by
    have hitem := h.isPart.within d outer limit opened hd hi hl
    have hsteps := (h.depth d hi).steps
    have hle := hd.steps_le hi
    rw [List.foldl_append]
    generalize ts.foldl Depth.next d = d' at hitem hsteps
    obtain ⟨steps, hsteps', hsign⟩ := next_sign d' (s := String.singleton s)
      (by rcases hs with rfl | rfl <;> simp)
    rw [List.foldl_cons, List.foldl_cons, List.foldl_nil, hsign, ht.next_eq]
    refine ⟨hitem.opened, ?_⟩
    have := hitem.deepest
    simp only [Depth.attempt, stepsOf, leafSteps] at *
    omega

/-- The tokens of parts with a comma between each two. -/
def commaTokens : List (List Token) → List Token
  | [] => []
  | [ts] => ts
  | ts :: rest => ts ++ symbol "," :: commaTokens rest

variable {tss : List (List Token)} {pieces : List (List Char)}

theorem isPart_commas (h : List.Forall₂ (IsPart level) pieces tss) :
    IsPart level (Value.commas pieces) (commaTokens tss) := by
  induction h with
  | nil => exact ⟨.nil, le_rfl, nofun, fun _ _ => rfl, fun d outer limit opened hd _ _ => hd⟩
  | @cons text ts pieces tss hfirst hlater ih =>
    cases hlater with
    | nil => exact hfirst
    | cons =>
      refine ⟨?_, ?_, ?_, fun opened ho => ?_, fun d outer limit opened hd hi hl => ?_⟩
      · have hcomma := (lexes_bracket (c := ',') (by decide)).append ih.lexes.blank fun _ _ => trivial
        exact hfirst.lexes.append hcomma fun rest _ => ends_of_mem (by decide) _
      · have := hfirst.length
        have := ih.length
        rw [commaTokens, Value.commas, List.length_append, List.length_append, List.length_cons,
          List.length_cons, List.length_cons]
        · omega
        · nofun
        · nofun
      · exact hfirst.clean.append (IsClean.cons (by decide) (ih.clean.cons (by decide)))
      · rw [commaTokens, List.foldlM_append, hfirst.brackets opened ho, Option.bind_eq_bind, Option.bind_some]
        · exact ih.brackets opened ho
        · nofun
      · have hitem := hfirst.within d outer limit opened hd hi hl
        obtain ⟨hcomma, hi⟩ := hitem.comma (by simp only [stepsOf] at *; omega)
        rw [commaTokens, List.foldl_append, List.foldl_cons]
        · exact ih.within _ outer limit opened hcomma hi hl
        · nofun

/-- The opening brackets, each with the one that closes it. -/
def bracketPairs : List (Char × Char) := [('(', ')'), ('[', ']'), ('\x7b', '\x7d')]

variable {o : Char} {word : List Char}

/-- What a part between brackets does to the depth, also behind a name that it is a call of. -/
theorem IsPart.passes (hb : (o, c) ∈ bracketPairs) (h : IsPart level text ts) (d : Depth) :
    d.Passes (level + 1)
      ((symbol (String.singleton o) :: ts ++ [symbol (String.singleton c)]).foldl Depth.next d) := by
  have hopen : d.next (symbol (String.singleton o)) = d.openBracket (String.singleton o) := by
    simp only [bracketPairs, List.mem_cons, Prod.mk.injEq, List.not_mem_nil, or_false] at hb
    rcases hb with ⟨rfl, rfl⟩ | ⟨rfl, rfl⟩ | ⟨rfl, rfl⟩ <;> rfl
  have hclose (d : Depth) : d.next (symbol (String.singleton c)) = d.closeBracket := by
    simp only [bracketPairs, List.mem_cons, Prod.mk.injEq, List.not_mem_nil, or_false] at hb
    rcases hb with ⟨rfl, rfl⟩ | ⟨rfl, rfl⟩ | ⟨rfl, rfl⟩ <;> rfl
  have hle := OpenBracket.steps_le { text := String.singleton o, outer := d.steps }
  have hcall : callSteps ≤ bracketSteps (String.singleton o) 0 := by
    unfold bracketSteps
    split <;> decide
  have hitem : (d.openBracket (String.singleton o)).AtItem := by
    refine ⟨rfl, ?_⟩
    rintro _ ⟨rfl⟩
    simp only [Depth.openBracket, Depth.attempt, OpenBracket.steps]
    split <;> omega
  have hwithin : (d.openBracket (String.singleton o)).Within d.steps
      (max d.deepest (d.steps + stepsOf (level + 1))) d.opened := by
    refine ⟨⟨_, rfl, rfl⟩, ?_⟩
    simp only [Depth.openBracket, Depth.attempt, OpenBracket.steps, stepsOf, leafSteps] at hle ⊢
    split <;> omega
  obtain ⟨⟨b, hopened, houter⟩, hdeepest⟩ := h.within _ _ _ _ hwithin hitem (by omega)
  rw [List.cons_append, List.foldl_cons, hopen, List.foldl_append, List.foldl_cons, List.foldl_nil, hclose]
  refine ⟨?_, ?_, hdeepest⟩
  · simp [Depth.closeBracket, hopened]
  · simp [Depth.closeBracket, hopened, houter]

/-- A part between brackets is an item. -/
theorem IsPart.enclosed (hb : (o, c) ∈ bracketPairs) (h : IsPart level text ts) :
    Fits (level + 1) (o :: text ++ [c])
      (symbol (String.singleton o) :: ts ++ [symbol (String.singleton c)]) := by
  have hpair : o ∈ ['(', ')', '[', ']', '\x7b', '\x7d', ','] ∧ c ∈ ['(', ')', '[', ']', '\x7b', '\x7d', ','] ∧
      c ∈ [',', ')', ']', '\x7d', ':', '+', '-'] ∧ o ∉ spaces ∧ 32 ≤ o.toNat ∧ 32 ≤ c.toNat := by
    have hall : ∀ p ∈ bracketPairs, p.1 ∈ ['(', ')', '[', ']', '\x7b', '\x7d', ','] ∧
      p.2 ∈ ['(', ')', '[', ']', '\x7b', '\x7d', ','] ∧ p.2 ∈ [',', ')', ']', '\x7d', ':', '+', '-'] ∧
      p.1 ∉ spaces ∧ 32 ≤ p.1.toNat ∧ 32 ≤ p.2.toNat := by decide
    exact hall _ hb
  obtain ⟨ho, hc, hend, hspaces, ho', hc'⟩ := hpair
  refine ⟨?_, ?_, ?_, ⟨o, _, rfl, hspaces⟩, fun opened hlength => ?_, fun d _ => h.passes hb d⟩
  · have hinner := h.lexes.append (lexes_bracket hc) fun rest _ => ends_of_mem hend rest
    exact ((lexes_bracket ho).append hinner fun _ _ => trivial).weaken fun _ _ => trivial
  · have := h.length
    simp only [List.cons_append, List.length_cons, List.length_append, List.length_nil]
    omega
  · intro d hd
    rw [List.cons_append, List.mem_cons, List.mem_append, List.mem_singleton] at hd
    rcases hd with rfl | hd | rfl
    · exact ho'
    · exact h.clean d hd
    · exact hc'
  · have hopen : Token.brackets? opened (symbol (String.singleton o)) =
        some (String.singleton c :: opened) := by
      have hlt : opened.length < maxBrackets := by omega
      simp only [bracketPairs, List.mem_cons, Prod.mk.injEq, List.not_mem_nil, or_false] at hb
      rcases hb with ⟨rfl, rfl⟩ | ⟨rfl, rfl⟩ | ⟨rfl, rfl⟩ <;>
        simp [Token.brackets?, Literal.brackets?, List.lookup_cons, hlt]
    have hclose : Token.brackets? (String.singleton c :: opened) (symbol (String.singleton c)) =
        some opened := by
      simp only [bracketPairs, List.mem_cons, Prod.mk.injEq, List.not_mem_nil, or_false] at hb
      rcases hb with ⟨rfl, rfl⟩ | ⟨rfl, rfl⟩ | ⟨rfl, rfl⟩ <;>
        simp [Token.brackets?, Literal.brackets?, List.lookup_cons]
    rw [List.cons_append, List.foldlM_cons, hopen, Option.bind_eq_bind, Option.bind_some, List.foldlM_append,
      h.brackets _ (by rw [List.length_cons]; omega), Option.bind_eq_bind, Option.bind_some]
    simp [hclose]

/-- A call of a name is an item. -/
theorem IsPart.called (hw : word ∈ printedNames) (h : IsPart level text ts) :
    Fits (level + 1) (word ++ '(' :: text ++ [')']) (name word :: symbol "(" :: ts ++ [symbol ")"]) := by
  have hround : ('(', ')') ∈ bracketPairs := by decide
  have hfits := h.enclosed hround
  obtain ⟨-, -, -, hhead, hne, hclean⟩ := printedNames_spec hw
  have hopened : Lexes (fun rest => rest.head? = some '(') word [name word] :=
    (lexes_name hw).weaken fun rest hrest d hd => by
      rw [hrest] at hd
      cases hd
      decide
  have hcall := hopened.append hfits.lexes fun _ _ => rfl
  have hlength := List.length_pos_of_ne_nil hne
  rw [List.append_assoc, List.cons_append]
  refine ⟨hcall, ?_, IsClean.append hclean hfits.clean, ?_, fun opened ho => ?_, fun d _ => ?_⟩
  · have := hfits.length
    simp only [List.length_cons, List.length_append, List.cons_append] at this ⊢
    omega
  · obtain ⟨c, cs, rfl⟩ := List.exists_cons_of_ne_nil hne
    exact ⟨c, _, rfl, (hhead c rfl).1⟩
  · rw [List.cons_append, List.foldlM_cons]
    exact hfits.brackets opened ho
  · have hname : d.next (name word) = { d.attempt leafSteps with behindOperand := true } := rfl
    obtain ⟨ho, hsteps, hdeepest⟩ := h.passes hround (d.next (name word))
    refine ⟨ho, hsteps, hdeepest.trans ?_⟩
    rw [hname]
    simp only [Depth.attempt, stepsOf, leafSteps]
    omega

end Brackets

end MacroStubs.Literal
