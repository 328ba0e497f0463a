import MacroStubs.Literal.Reader
import MacroStubs.Proofs.Literal.Contents
import MacroStubs.Proofs.Literal.Display

/-! # Texts that spell expressions

A text spells an expression if its tokens are read as it wherever an item may stand. Constants do, and
displays do if what they hold does.
-/

namespace MacroStubs.Literal
open Token Number

variable {level n : Nat} {text : List Char} {ts : List Token} {e : Expression} {c : Char} {cs : List Char}
  {t : Token}

/-- Whether a text in which brackets nest so deep spells an expression. -/
structure Spells (level : Nat) (text : List Char) (ts : List Token) (e : Expression) : Prop
    extends Fits level text ts where
  reads : ∀ n, 16 * text.length + 16 ≤ n → Reads (expression n) ts e

theorem Spells.mono {level' : Nat} (h : Spells level text ts e) (hl : level ≤ level') :
    Spells level' text ts e :=
  ⟨h.toFits.mono hl, h.reads⟩

/-- Only a name can be given a value. -/
theorem unnamed_of_behind {rest : List Token} (hrest : Behind rest) (t : Token) : Unnamed (t :: rest) := by
  unfold Unnamed
  split
  · rename_i s _ heq
    obtain ⟨-, rfl⟩ := List.cons.inj heq
    constructor <;> rintro rfl <;> simp [Behind] at hrest
  · trivial

/-- What an atom is read as is read at every grade. -/
theorem reads_of_atom (hts : ∀ rest, IsOperand (ts ++ rest))
    (hn : ∀ rest, Closed rest → Unnamed (ts ++ rest)) (he : e.isStarred = false)
    (h : ∀ rest, Closed rest → atom (expression n) (ts ++ rest) = some (e, rest)) :
    Reads (expression (n + 14)) ts e where
  isItem rest := (hts rest).isItem
  unnamed := hn
  unstarred := he
  whole rest hrest := whole_of_primary (primary_of_atom (h rest hrest) hrest.behind) (hts rest) hrest

theorem spells_alone (hf : Fits 0 text [t]) (ht : IsAlone t) (he : e.isStarred = false)
    (h : ∀ read rest, Closed rest → atom read (t :: rest) = some (e, rest)) : Spells 0 text [t] e where
  toFits := hf
  reads n hn := by
    obtain ⟨n, rfl⟩ := Nat.exists_eq_add_of_le' (show 14 ≤ n by omega)
    refine reads_of_atom (fun rest => ?_) (fun rest hrest => unnamed_of_behind hrest.behind t) he
      fun rest hrest => h _ rest hrest
    cases t with
    | name word => trivial
    | number v => trivial
    | quotation q => trivial
    | symbol s =>
      simp only [IsAlone, List.mem_cons, List.not_mem_nil, or_false] at ht
      rcases ht with rfl | rfl | rfl <;> simp [IsOperand]

/-- The constants that are words, with what they denote. -/
def constants : List (String × Value) := [("None", .null), ("True", .bool true), ("False", .bool false)]

theorem spells_word {word : String} {v : Value} (h : (word, v) ∈ constants) :
    Spells 0 word.toList [symbol word] (.constant v) := by
  simp only [constants, List.mem_cons, Prod.mk.injEq, List.not_mem_nil, or_false] at h
  have hfits {word : String} {c : Char} {cs : List Char} (hcs : word.toList = c :: cs) (hc : c ∉ spaces)
      (hclean : IsClean (c :: cs)) (hw : word ∈ ["None", "True", "False"]) :
      Fits 0 word.toList [symbol word] := by
    have hlexes := lexes_constant hw
    rw [hcs] at hlexes ⊢
    exact fits_alone hw hlexes hclean hc
  rcases h with ⟨rfl, rfl⟩ | ⟨rfl, rfl⟩ | ⟨rfl, rfl⟩
  · exact spells_alone (hfits rfl (by decide) (isClean_of_all (by decide)) (by decide))
      (by simp [IsAlone]) rfl fun _ _ _ => rfl
  · exact spells_alone (hfits rfl (by decide) (isClean_of_all (by decide)) (by decide))
      (by simp [IsAlone]) rfl fun _ _ _ => rfl
  · exact spells_alone (hfits rfl (by decide) (isClean_of_all (by decide)) (by decide))
      (by simp [IsAlone]) rfl fun _ _ _ => rfl

theorem spells_quotation {q : Quotation} {v : Value} (hc : c = 'b' ∨ IsQuote c) (hclean : IsClean (c :: cs))
    (hq : ∀ rest, Ends rest → Quotation.read? (c :: cs ++ rest) = some (q, rest))
    (hf : q.mark.formatted = false) (hj : joined? [q] = some v) :
    Spells 0 (c :: cs) [quotation q] (.constant v) := by
  have hspaces : c ∉ spaces := by rcases hc with rfl | rfl | rfl <;> decide
  refine spells_alone (fits_alone trivial (lexes_quotation hc hq) hclean hspaces) trivial rfl
    fun read rest hrest => ?_
  obtain ⟨s, more, rfl, -⟩ := hrest.exists
  simp [atom, quoted, quotations, hf, hj]

section Numbers

/-- Whether a text is one number or name, and what it is read as. -/
structure IsTerm (cs : List Char) (t : Token) (e : Expression) : Prop where
  lexes : Lexes Ends cs [t]
  clean : IsClean cs
  head : ∃ c rest, cs = c :: rest ∧ isWordChar c = true
  isUnit : IsUnit t
  unstarred : e.isStarred = false
  atom : ∀ read rest, atom read (t :: rest) = some (e, rest)

variable {e' : Expression} {s : Char} {rest : List Token}

theorem isTerm_number {v : Value} (h : Lexes Ends cs [number v]) (hclean : IsClean cs)
    (hhead : ∃ c rest, cs = c :: rest ∧ isDigit c = true) : IsTerm cs (number v) (.constant v) where
  lexes := h
  clean := hclean
  head := by
    obtain ⟨c, rest, hcs, hc⟩ := hhead
    have hbounds : '0' ≤ c ∧ c ≤ '9' := by simpa [isDigit] using hc
    refine ⟨c, rest, hcs, ?_⟩
    simp [isWordChar, Char.isAlphanum, Char.isDigit, Char.le_def] at hbounds ⊢
    exact .inl (.inl (.inr hbounds))
  isUnit := trivial
  unstarred := rfl
  atom _ _ := rfl

theorem isClean_of_isDigit {ds : List Char} (h : ∀ c ∈ ds, isDigit c = true) : IsClean ds := by
  intro c hc
  have hbounds : '0' ≤ c ∧ c ≤ '9' := by simpa [isDigit] using h c hc
  have hle : '0'.toNat ≤ c.toNat := hbounds.1
  exact le_trans (by decide) hle

theorem isClean_numeral {t : Numeral} (ht : t.IsProper) : IsClean t.text := by
  refine IsClean.append (IsClean.append (isClean_of_isDigit ht.whole) ?_) ?_
  · cases hf : t.fraction with
    | none => exact nofun
    | some ds => exact (isClean_of_isDigit (ht.fraction ds hf)).cons (by decide)
  · cases t.exponent with
    | none => exact nofun
    | some x =>
      obtain ⟨ds, htext, -, hds, -⟩ := exponentText_eq x
      rw [Option.elim, htext]
      exact ((isClean_of_isDigit hds).cons (by split <;> decide)).cons (by decide)

theorem isTerm_numeral {t : Numeral} (ht : t.IsProper) :
    let v := if t.isWhole then .int (natOfDigits t.whole) else .float (t.parts.value false)
    IsTerm t.text (number v) (.constant v) :=
  isTerm_number (lexes_numeral ht) (isClean_numeral ht) (Numeral.text_head ht)

theorem isTerm_imaginary {t : Numeral} (ht : t.IsProper) :
    IsTerm (t.text ++ ['j']) (number (.complex (.zero false) (t.parts.value false)))
      (.constant (.complex (.zero false) (t.parts.value false))) := by
  obtain ⟨c, cs, hcs, hc⟩ := Numeral.text_head ht
  exact isTerm_number (lexes_imaginary ht) (IsClean.append (isClean_numeral ht) (isClean_of_all (by decide)))
    ⟨c, _, by rw [hcs]; rfl, hc⟩

theorem isTerm_name {word : List Char} (h : word ∈ printedNames) :
    IsTerm word (name word) (.name (Text.namesSet word)) := by
  obtain ⟨hword, -, -, -, hne, hclean⟩ := printedNames_spec h
  obtain ⟨c, cs, rfl⟩ := List.exists_cons_of_ne_nil hne
  exact ⟨(lexes_name h).weaken fun _ => Ends.isWordChar, hclean,
    ⟨c, cs, rfl, List.all_eq_true.mp hword c List.mem_cons_self⟩, trivial, rfl, fun _ _ => rfl⟩

namespace IsTerm

theorem fits (h : IsTerm cs t e) : Fits 0 cs [t] := by
  obtain ⟨c, rest, rfl, hc⟩ := h.head
  have hall : ∀ c ∈ spaces, isWordChar c = false := List.all_iff_forall_prop.mp (by decide)
  have halone : IsAlone t := by
    have hunit := h.isUnit
    cases t <;> simp_all [IsAlone, IsUnit]
  refine fits_alone halone h.lexes h.clean fun hmem => ?_
  exact absurd hc (by rw [hall c hmem]; exact Bool.false_ne_true)

theorem factor_eq (h : IsTerm cs t e) (n : Nat) (hrest : Behind rest) :
    expression (n + 3) .factor (t :: rest) = some (e, rest) := by
  have hpower : expect "**" rest = none := by
    unfold Behind at hrest
    split at hrest
    · simp only [expect]
      rw [if_neg (by rintro rfl; simp at hrest)]
    · cases hrest
  have hoperand : IsOperand (t :: rest) := by
    have hunit := h.isUnit
    cases t <;> simp_all [IsOperand, IsUnit]
  exact factor_of_primary (primary_of_atom (h.atom _ rest) hrest) hoperand hpower

end IsTerm

/-- Whether a text is a term with at most one sign, which may be the real part of a sum. -/
structure IsAddend (text : List Char) (ts : List Token) (e : Expression) : Prop
    extends Fits 0 text ts where
  isItem : ∀ rest, IsItem (ts ++ rest)
  unnamed : ∀ rest, Behind rest → Unnamed (ts ++ rest)
  unstarred : e.isStarred = false
  factor : ∀ n rest, Behind rest → expression (n + 4) .factor (ts ++ rest) = some (e, rest)

theorem IsTerm.plain (h : IsTerm cs t e) : IsAddend cs [t] e where
  toFits := h.fits
  isItem rest := by
    have hunit := h.isUnit
    cases t <;> simp_all [IsItem, IsOperand, IsUnit]
  unnamed rest hrest := unnamed_of_behind hrest t
  unstarred := h.unstarred
  factor n rest hrest := h.factor_eq (n + 1) hrest

theorem IsTerm.signed (h : IsTerm cs t e) :
    IsAddend ('-' :: cs) [symbol "-", t] (.signed true e) where
  toFits := by
    have hfits := h.fits
    obtain ⟨c, rest, rfl, hc⟩ := h.head
    exact hfits.signed h.isUnit hc
  isItem _ := .inl rfl
  unnamed _ _ := trivial
  unstarred := rfl
  factor n rest hrest := by
    rw [List.cons_append, List.singleton_append, expression_succ, ofGrade, factor, h.factor_eq n hrest]
    rfl

theorem IsAddend.spells (h : IsAddend text ts e) : Spells 0 text ts e where
  toFits := h.toFits
  reads n hn := by
    obtain ⟨n, rfl⟩ := Nat.exists_eq_add_of_le' (show 15 ≤ n by omega)
    exact ⟨h.isItem, fun rest hrest => h.unnamed rest hrest.behind, h.unstarred, fun rest hrest =>
      whole_of_factor (h.factor n rest hrest.behind) (h.isItem rest) hrest⟩

theorem reads_sum (h : IsAddend text ts e) (hw : IsTerm cs t e') (hs : s = '+' ∨ s = '-') (n : Nat) :
    Reads (expression (n + 15)) (ts ++ [symbol (String.singleton s), t]) (.sum (s == '-') e e') where
  isItem rest := by
    rw [List.append_assoc]
    exact h.isItem _
  unnamed rest _ := by
    rw [List.append_assoc]
    exact h.unnamed _ (by rcases hs with rfl | rfl <;> simp [Behind])
  unstarred := rfl
  whole rest hrest := by
    have hbehind : Behind (symbol (String.singleton s) :: t :: rest) := by
      rcases hs with rfl | rfl <;> simp [Behind]
    have hproduct {ts rest : List Token} {e : Expression}
        (hf : expression (n + 4) .factor ts = some (e, rest))
        (hrest : symbolOf ["*", "/", "//", "%", "@"] rest = none) :
        expression (n + 5) .product ts = some (e, rest) := chain_of_operand hf hrest
    have hleft := hproduct (h.factor n _ hbehind)
      (by rcases hs with rfl | rfl <;> simp [symbolOf])
    have hright := hproduct (hw.factor_eq (n + 1) hrest.behind) (hrest.symbolOf _ (by decide))
    have hend : symbolOf ["+", "-"] rest = none := hrest.symbolOf _ (by decide)
    have hjoin : joinSum (String.singleton s) e e' = .sum (s == '-') e e' := by
      rcases hs with rfl | rfl <;> rfl
    have hsign : symbolOf ["+", "-"] (symbol (String.singleton s) :: t :: rest) =
        some (String.singleton s, t :: rest) := by
      rcases hs with rfl | rfl <;> simp [symbolOf]
    have hsum : expression (n + 6) .sum (ts ++ symbol (String.singleton s) :: t :: rest) =
        some (.sum (s == '-') e e', rest) := by
      rw [expression_succ, ofGrade, chain, hleft]
      simp [operands, hsign, hright, hjoin, hend]
    rw [List.append_assoc]
    exact whole_of_sum hsum (h.isItem _) hrest

/-- A sum in brackets. -/
theorem spells_sum (h : IsAddend text ts e) (hw : IsTerm cs t e') (hs : s = '+' ∨ s = '-') :
    Spells 1 ('(' :: (text ++ s :: cs) ++ [')'])
      (symbol "(" :: (ts ++ [symbol (String.singleton s), t]) ++ [symbol ")"])
      (.sum (s == '-') e e') where
  toFits := by
    have hfits := hw.fits
    obtain ⟨c, rest, rfl, hc⟩ := hw.head
    exact (h.toFits.sum hs hfits hw.isUnit hc).enclosed (o := '(') (by decide)
  reads n hn := by
    rw [List.cons_append, List.length_cons, List.length_append, List.length_singleton] at hn
    obtain ⟨n, rfl⟩ := Nat.exists_eq_add_of_le' (show 29 ≤ n by omega)
    refine reads_of_atom (fun rest => by simp [IsOperand]) (fun _ _ => trivial) rfl fun rest _ => ?_
    rw [List.append_assoc]
    exact parenthesized_eq (reads_sum h hw hs n) rest

end Numbers

section Displays

/-- A call of a name without arguments. -/
theorem spells_emptyCall (word : List Char) (hw : word ∈ printedNames) :
    Spells 1 (word ++ ['(', ')']) [name word, symbol "(", symbol ")"]
      (if Text.namesSet word then .emptySet else .other) where
  toFits := by
    have hempty : IsPart 0 (Value.commas []) (commaTokens []) := isPart_commas .nil
    have hfits := hempty.called hw
    rw [List.append_assoc] at hfits
    exact hfits
  reads n hn := by
    obtain ⟨n, rfl⟩ := Nat.exists_eq_add_of_le' (show 14 ≤ n by omega)
    refine ⟨fun _ => trivial, fun _ _ => by simp [Unnamed], by split <;> rfl, fun rest hrest =>
      whole_of_primary ?_ trivial hrest⟩
    have htrailers := trailers_of_behind (expression n) hrest.behind (rest.length + 2)
    obtain ⟨e, hprimary, he⟩ : ∃ e,
        expression (n + 1) .primary ([name word, symbol "(", symbol ")"] ++ rest) =
          trailers (expression n) (rest.length + 2) e rest ∧
        e = if Text.namesSet word then .emptySet else .other :=
      ⟨_, rfl, by cases Text.namesSet word <;> rfl⟩
    rw [hprimary, he]
    exact htrailers _

variable {pieces : List (List Char)} {items : List (List Token × Expression)}

/-- Whether each of some texts spells an expression. -/
def SpellAll (level : Nat) (pieces : List (List Char)) (items : List (List Token × Expression)) : Prop :=
  List.Forall₂ (fun text p => Spells level text p.1 p.2) pieces items

theorem SpellAll.isPart (h : SpellAll level pieces items) :
    IsPart level (Value.commas pieces) (commaTokens (items.map (·.1))) := by
  refine isPart_commas ?_
  rw [List.forall₂_map_right_iff]
  exact h.imp fun _ _ hp => hp.toFits.isPart

theorem length_le_commas {piece : List Char} (h : piece ∈ pieces) :
    piece.length ≤ (Value.commas pieces).length := by
  induction pieces with
  | nil => cases h
  | cons first later ih =>
    cases later with
    | nil =>
      rw [List.mem_singleton.mp h]
      exact le_rfl
    | cons second later =>
      rw [Value.commas, List.length_append, List.length_cons, List.length_cons]
      · rcases List.mem_cons.mp h with rfl | h
        · omega
        · have := ih h
          omega
      · exact List.cons_ne_nil _ _

theorem SpellAll.reads (h : SpellAll level pieces items) (hn : 16 * (Value.commas pieces).length + 16 ≤ n) :
    ∀ p ∈ items, Reads (expression n) p.1 p.2 := by
  intro p hp
  obtain ⟨piece, hmem, hspells⟩ := exists_left_of_mem h hp
  exact hspells.reads n (by have := length_le_commas hmem; omega)

/-- What brackets and the items in them are read as. -/
theorem reads_bracket {o c : String} (ho : o ∈ ["(", "[", "\x7b"]) (he : e.isStarred = false)
    (h : ∀ rest, atom (expression n) (symbol o :: (ts ++ symbol c :: rest)) = some (e, rest)) :
    Reads (expression (n + 14)) (symbol o :: ts ++ [symbol c]) e := by
  have hall : ∀ s ∈ ["(", "[", "\x7b"], s ∈ ["None", "True", "False", "(", "[", "\x7b"] := by decide
  refine reads_of_atom (fun rest => ?_) (fun _ _ => trivial) he fun rest _ => ?_
  · have hmem := hall o ho
    simpa [IsOperand] using hmem
  · rw [List.append_assoc]
    exact h rest

theorem spells_list (h : SpellAll level pieces items) : Spells (level + 1)
    ('[' :: Value.commas pieces ++ [']']) (symbol "[" :: commaTokens (items.map (·.1)) ++ [symbol "]"])
    (.list (items.map (·.2))) where
  toFits := h.isPart.enclosed (o := '[') (by decide)
  reads n hn := by
    simp only [List.cons_append, List.length_cons, List.length_append, List.length_nil] at hn
    obtain ⟨n, rfl⟩ := Nat.exists_eq_add_of_le' (show 14 ≤ n by omega)
    exact reads_bracket (by simp) rfl fun rest => squareBracketed_eq (h.reads (by omega)) rest

theorem spells_set (h : SpellAll level pieces items) (hne : items ≠ []) : Spells (level + 1)
    ('\x7b' :: Value.commas pieces ++ ['\x7d'])
    (symbol "\x7b" :: commaTokens (items.map (·.1)) ++ [symbol "\x7d"])
    (.set (items.map (·.2))) where
  toFits := h.isPart.enclosed (o := '\x7b') (by decide)
  reads n hn := by
    simp only [List.cons_append, List.length_cons, List.length_append, List.length_nil] at hn
    obtain ⟨n, rfl⟩ := Nat.exists_eq_add_of_le' (show 14 ≤ n by omega)
    exact reads_bracket (by simp) rfl fun rest => braced_set_eq (h.reads (by omega)) hne rest

theorem spells_tuple (h : SpellAll level pieces items) (hone : items.length ≠ 1) : Spells (level + 1)
    ('(' :: Value.commas pieces ++ [')']) (symbol "(" :: commaTokens (items.map (·.1)) ++ [symbol ")"])
    (.tuple (items.map (·.2))) where
  toFits := h.isPart.enclosed (o := '(') (by decide)
  reads n hn := by
    simp only [List.cons_append, List.length_cons, List.length_append, List.length_nil] at hn
    obtain ⟨n, rfl⟩ := Nat.exists_eq_add_of_le' (show 14 ≤ n by omega)
    exact reads_bracket (by simp) rfl fun rest => parenthesized_items_eq (h.reads (by omega)) hone rest

/-- A tuple of one item. -/
theorem spells_single (h : Spells level text ts e) : Spells (level + 1)
    ('(' :: (text ++ [',']) ++ [')']) (symbol "(" :: (ts ++ [symbol ","]) ++ [symbol ")"]) (.tuple [e]) where
  toFits := h.toFits.comma.enclosed (o := '(') (by decide)
  reads n hn := by
    simp only [List.cons_append, List.length_cons, List.length_append, List.length_nil] at hn
    obtain ⟨n, rfl⟩ := Nat.exists_eq_add_of_le' (show 14 ≤ n by omega)
    refine reads_bracket (by simp) rfl fun rest => ?_
    rw [List.append_assoc]
    exact parenthesized_comma_eq (h.reads n (by omega)) rest

/-- A call of a name with arguments. -/
theorem spells_call (word : List Char) (hw : word ∈ printedNames) (h : SpellAll level pieces items)
    (hne : items ≠ []) : Spells (level + 1) (word ++ '(' :: Value.commas pieces ++ [')'])
      (name word :: symbol "(" :: commaTokens (items.map (·.1)) ++ [symbol ")"]) .other where
  toFits := h.isPart.called hw
  reads n hn := by
    simp only [List.length_cons, List.length_append, List.length_nil] at hn
    obtain ⟨n, rfl⟩ := Nat.exists_eq_add_of_le' (show 14 ≤ n by omega)
    refine ⟨fun _ => trivial, fun _ _ => by simp [Unnamed], rfl, fun rest hrest =>
      whole_of_primary ?_ trivial hrest⟩
    have hreads := h.reads (n := n) (by omega)
    have hcalled := called_eq hreads hne rest
    have hempty : expect ")" (commaTokens (items.map (·.1)) ++ symbol ")" :: rest) = none := by
      obtain ⟨p, more, rfl⟩ := List.exists_cons_of_ne_nil hne
      rw [List.map_cons, commaTokens_cons]
      exact (hreads p List.mem_cons_self).expect _ (by decide) _
    have hprimary (inner : List Token) : expression (n + 1) .primary (name word :: symbol "(" :: inner) =
        trailers (expression n) (inner.length + 2) (.name (Text.namesSet word)) (symbol "(" :: inner) := rfl
    rw [List.append_assoc, List.singleton_append, List.cons_append, List.cons_append, hprimary]
    generalize commaTokens (items.map (·.1)) ++ symbol ")" :: rest = inner at *
    rw [trailers]
    · simp [hcalled, trailers_of_behind (expression n) hrest.behind]
    · rintro more rfl
      simp [expect] at hempty

variable {texts : List (List Char × List Char)} {entries : List Entry}

/-- The text of an entry. -/
def entryText (p : List Char × List Char) : List Char := p.1 ++ ':' :: ' ' :: p.2

/-- Whether keys and values of entries spell expressions. -/
def SpellEntries (level : Nat) (texts : List (List Char × List Char)) (entries : List Entry) : Prop :=
  List.Forall₂ (fun p q => Spells level p.1 q.key.1 q.key.2 ∧ Spells level p.2 q.value.1 q.value.2)
    texts entries

theorem SpellEntries.reads (h : SpellEntries level texts entries)
    (hn : 16 * (Value.commas (texts.map entryText)).length + 16 ≤ n) :
    ∀ q ∈ entries, q.Reads (expression n) := by
  intro q hq
  obtain ⟨p, hmem, hk, hv⟩ := exists_left_of_mem h hq
  have hlength := length_le_commas (List.mem_map_of_mem (f := entryText) hmem)
  rw [entryText, List.length_append, List.length_cons, List.length_cons] at hlength
  exact ⟨hk.reads n (by omega), hv.reads n (by omega)⟩

theorem spells_dict (h : SpellEntries level texts entries) : Spells (level + 1)
    ('\x7b' :: Value.commas (texts.map entryText) ++ ['\x7d'])
    (symbol "\x7b" :: commaTokens (entries.map Entry.tokens) ++ [symbol "\x7d"])
    (.dict (entries.map Entry.expressions)) where
  toFits := by
    have hpart : IsPart level (Value.commas (texts.map entryText))
        (commaTokens (entries.map Entry.tokens)) := by
      refine isPart_commas ?_
      rw [List.forall₂_map_left_iff, List.forall₂_map_right_iff]
      exact h.imp fun _ _ hp => hp.1.toFits.entry hp.2.toFits
    exact hpart.enclosed (o := '\x7b') (by decide)
  reads n hn := by
    simp only [List.cons_append, List.length_cons, List.length_append, List.length_nil] at hn
    obtain ⟨n, rfl⟩ := Nat.exists_eq_add_of_le' (show 14 ≤ n by omega)
    exact reads_bracket (by simp) rfl fun rest => braced_dict_eq (h.reads (by omega)) rest

end Displays

section Reading

/-- How deep brackets may nest for a text not to be refused for it. -/
def safeLevel : Nat := 190

theorem lineStart_eq (hc : c ∉ spaces) : lineStart (c :: cs) = some (c :: cs) := by
  simp only [spaces, List.mem_cons, List.not_mem_nil, or_false, not_or] at hc
  simp [lineStart, lineStartFrom, hc]

/-- The tokens of a text, if its brackets are not nested too deep. -/
theorem Fits.tokens?_eq (h : Fits level text ts) :
    tokens? text = if ts.foldlM Token.brackets? [] = some [] then some ts else none := by
  obtain ⟨c, cs, rfl, hc⟩ := h.head
  have hlength := h.length
  have hfrom := h.lexes ((c :: cs).length - ts.length + 1) [] [] [] nofun
  rw [List.append_nil, List.append_nil,
    show ts.length + ((c :: cs).length - ts.length + 1) = (c :: cs).length + 1 by omega] at hfrom
  have hskip (inside : Bool) : skip inside [] = some [] := rfl
  rw [tokens?, lineStart_eq hc, Option.bind_eq_bind, Option.bind_some, hfrom]
  cases ts.foldlM Token.brackets? [] with
  | none => rfl
  | some opened => cases opened <;> simp [tokensFrom?, hskip]

theorem Fits.isShallow (h : Fits level text ts) (hl : level ≤ safeLevel) : isShallow ts = true := by
  have hdepth := (h.depth {} ⟨rfl, nofun⟩).deepest
  refine decide_eq_true (hdepth.trans ?_)
  simp only [firstSteps, leafSteps, stepsOf, maxSteps, safeLevel] at *
  omega

theorem Spells.wholeExpression?_eq (h : Spells level text ts e) :
    wholeExpression? text.length ts = some e := by
  have hreads := h.reads (nestingFor text.length) le_rfl
  have hend : Closed [symbol ""] := by simp [Closed]
  have hempty := hreads.expect "" (by decide) [symbol ""]
  have hcomma : expect "," [symbol ""] = none := by simp [expect]
  have hitems : itemsUntil (expression (nestingFor text.length) .whole) "" (ts.length + 1) false []
      (ts ++ [symbol ""]) = some (([e], false), []) := by
    rw [itemsUntil, hempty, hreads.whole _ hend]
    simp [hcomma, expect_self]
  simp [wholeExpression?, hitems]

/-- A text is read as what it spells, unless it is nested too deep. -/
theorem Spells.expression?_eq (h : Spells level text ts e) : expression? text =
    if ts.foldlM Token.brackets? [] = some [] ∧ isShallow ts = true then some e else none := by
  obtain ⟨c, cs, hcons, hc⟩ := h.head
  have hblank : text.dropWhile (fun c => c = ' ' || c = '\t') = text := by
    have hblanks : (c = ' ' || c = '\t') = false := by
      simp only [spaces, List.mem_cons, List.not_mem_nil, or_false, not_or] at hc
      simp [hc]
    rw [hcons, List.dropWhile_cons_of_neg (by simpa using hblanks)]
  have hclean {d : Char} (hd : d.toNat < 32) : d ∉ text := fun hmem => by
    have := h.clean d hmem
    omega
  have hnul : '\x00' ∉ text := hclean (by decide)
  have hfeeds : Text.lineFeeds text = text := lineFeeds_eq_self (hclean (by decide))
  have htokens := h.toFits.tokens?_eq
  by_cases hb : ts.foldlM Token.brackets? [] = some []
  · simp [expression?, hnul, hblank, hfeeds, htokens, hb, h.wholeExpression?_eq]
  · simp [expression?, hnul, hblank, hfeeds, htokens, hb]

/-- What a text that spells an expression is read as. -/
theorem Spells.read_eq (h : Spells level text ts e) (hl : level ≤ safeLevel) : read text = e.value? := by
  have hbrackets := h.brackets [] (by simp only [List.length_nil, maxBrackets, safeLevel] at *; omega)
  rw [read, h.expression?_eq, if_pos ⟨hbrackets, h.toFits.isShallow hl⟩]

/-- Nested too deep, it is refused. -/
theorem Spells.read_eq_or (h : Spells level text ts e) :
    read text = e.value? ∨ read text = .error .malformed := by
  rw [read, h.expression?_eq]
  split <;> rename_i heq <;> split at heq
  · cases heq
    exact .inl rfl
  · cases heq
  · cases heq
  · exact .inr rfl

end Reading

end MacroStubs.Literal
