import MacroStubs.Proofs.Literal.Spelling

/-! # Texts that break off

The printed form of an object begins with `<`, where no expression goes on. A text that holds such a form
where an item should stand is therefore no expression, whatever follows.
-/

namespace MacroStubs.Literal
open Token

variable {n : Nat} {read : Grade → Reader Expression} {ts rest : List Token} {e : Expression}

section Grades

/-- Whether tokens begin with a name, an opening bracket, or a sign that begins no expression. -/
def IsStart : List Token → Prop
  | name _ :: _ => True
  | symbol s :: _ => s ∈ ["(", "[", "\x7b", "<", "<=", "<<", "<<="]
  | _ => False

theorem IsStart.expect (h : IsStart ts) (text : String)
    (ht : text ∉ ["(", "[", "\x7b", "<", "<=", "<<", "<<="]) : expect text ts = none := by
  unfold Literal.expect
  split
  · rename_i s rest
    have hne : s ≠ text := by
      rintro rfl
      exact ht h
    rw [if_neg hne]
  · rfl

theorem chain_none {sign : Reader String} {operand : Reader Expression}
    {join : String → Expression → Expression → Expression} (h : operand ts = none) :
    chain sign operand join ts = none := by
  rw [chain, h]
  rfl

/-- What is no primary is no expression. -/
theorem whole_none (hts : IsStart ts) (h : expression (n + 1) .primary ts = none) :
    expression (n + 14) .whole ts = none := by
  have hpower : expression (n + 2) .power ts = none := by
    rw [expression_succ, ofGrade, power, hts.expect _ (by decide)]
    simp [h]
  have hfactor : expression (n + 3) .factor ts = none := by
    rw [expression_succ, ofGrade]
    unfold factor
    split
    · simp [IsStart] at hts
    · simp [IsStart] at hts
    · simp [IsStart] at hts
    · exact hpower
  have hproduct : expression (n + 4) .product ts = none := chain_none hfactor
  have hsum : expression (n + 5) .sum ts = none := chain_none hproduct
  have hshifted : expression (n + 6) .shifted ts = none := chain_none hsum
  have hcommon : expression (n + 7) .common ts = none := chain_none hshifted
  have hexclusive : expression (n + 8) .exclusive ts = none := chain_none hcommon
  have halternative : expression (n + 9) .alternative ts = none := chain_none hexclusive
  have hcomparison : expression (n + 10) .comparison ts = none := chain_none halternative
  have hinversion : expression (n + 11) .inversion ts = none := by
    rw [expression_succ, ofGrade]
    unfold inversion
    split
    · simp [IsStart] at hts
    · exact hcomparison
  have hconjunction : expression (n + 12) .conjunction ts = none := chain_none hinversion
  have hdisjunction : expression (n + 13) .disjunction ts = none := chain_none hconjunction
  rw [expression_succ, ofGrade]
  unfold whole
  split
  · simp [IsStart] at hts
  · rw [hdisjunction]
    rfl

theorem primary_none (h : atom (expression n) ts = none) : expression (n + 1) .primary ts = none := by
  rw [expression_succ, ofGrade, primary, h]
  rfl

end Grades

section Items

/-- Whether no item can be read from tokens. -/
structure Fails (read : Grade → Reader Expression) (ts : List Token) : Prop where
  isStart : IsStart ts
  unnamed : Unnamed ts
  whole : read .whole ts = none

theorem Fails.item (h : Fails read ts) : item read ts = none := by
  rw [Literal.item, starredOr, h.isStart.expect _ (by decide), h.unnamed.named_eq]
  exact h.whole

theorem Fails.startsWith {text : String} (h : Fails read ts)
    (ht : text ∉ ["(", "[", "\x7b", "<", "<=", "<<", "<<="]) : startsWith text ts = false := by
  rw [startsWith_eq, h.isStart.expect _ ht]
  rfl

/-- Tokens behind others, with a comma behind each of these. -/
def behindCommas : List (List Token) → List Token → List Token
  | [], ts => ts
  | first :: later, ts => first ++ symbol "," :: behindCommas later ts

variable {items : List (List Token × Expression)} {closing : String}

theorem closed_comma (rest : List Token) : Closed (symbol "," :: rest) := by
  simp [Closed]

/-- Items are read up to the one that cannot be. -/
theorem itemsUntil_none (hc : IsClosing closing) (hitems : ∀ p ∈ items, Reads read p.1 p.2)
    (h : Fails read ts) (n : Nat) (comma : Bool) (found : List Expression) :
    itemsUntil (item read) closing n comma found (behindCommas (items.map (·.1)) ts) = none := by
  have hbegin : ∀ s ∈ [")", "]", "\x7d", ""], s ∉ ["-", "None", "True", "False", "(", "[", "\x7b"] ∧
    s ∉ ["(", "[", "\x7b", "<", "<=", "<<", "<<="] := by decide
  induction items generalizing n comma found with
  | nil =>
    cases n with
    | zero => rfl
    | succ n =>
      rw [List.map_nil, behindCommas, itemsUntil, h.isStart.expect _ (hbegin closing hc).2]
      simp [h.item]
  | cons p more ih =>
    obtain ⟨hp, hmore⟩ := List.forall_mem_cons.mp hitems
    cases n with
    | zero => rfl
    | succ n =>
      rw [List.map_cons, behindCommas, itemsUntil, hp.expect _ (hbegin closing hc).1,
        hp.item (closed_comma _)]
      simp [expect_self, ih hmore]

variable {first : Expression} {plural : List Expression → Expression}

theorem display_none (hc : IsClosing closing) (hitems : ∀ p ∈ items, Reads read p.1 p.2)
    (h : Fails read ts) : display read closing first plural
      (symbol "," :: behindCommas (items.map (·.1)) ts) = none := by
  simp only [display, (closed_comma _).isLoop, Bool.false_eq_true, if_false, expect_self,
    itemsUntil_none hc hitems h]
  rfl

/-- What begins the contents of a bracket fails if one of the items does. -/
theorem squareBracketed_none (hitems : ∀ p ∈ items, Reads read p.1 p.2) (h : Fails read ts) :
    squareBracketed read (behindCommas (items.map (·.1)) ts) = none := by
  have hc : IsClosing "]" := by simp [IsClosing]
  cases items with
  | nil => simp [squareBracketed, behindCommas, h.startsWith, h.item]
  | cons p more =>
    obtain ⟨hp, hmore⟩ := List.forall_mem_cons.mp hitems
    have hstart := hp.expect "]" (by decide)
    simp [squareBracketed, behindCommas, startsWith_eq, hstart, hp.item (closed_comma _),
      display_none hc hmore h]

theorem parenthesized_none (hitems : ∀ p ∈ items, Reads read p.1 p.2) (h : Fails read ts) :
    parenthesized read (behindCommas (items.map (·.1)) ts) = none := by
  have hc : IsClosing ")" := by simp [IsClosing]
  cases items with
  | nil => simp [parenthesized, behindCommas, h.startsWith, h.item]
  | cons p more =>
    obtain ⟨hp, hmore⟩ := List.forall_mem_cons.mp hitems
    have hstart := hp.expect ")" (by decide)
    have hyield := hp.expect "yield" (by decide)
    have hcomma (more : List Token) : expect ")" (symbol "," :: more) = none := by simp [expect]
    simp [parenthesized, behindCommas, startsWith_eq, hstart, hyield, hp.item (closed_comma _), hcomma,
      display_none hc hmore h]

theorem braced_none_of_item (hitems : ∀ p ∈ items, Reads read p.1 p.2) (h : Fails read ts) :
    braced read (behindCommas (items.map (·.1)) ts) = none := by
  have hc : IsClosing "\x7d" := by simp [IsClosing]
  cases items with
  | nil => simp [braced, behindCommas, h.startsWith, h.item]
  | cons p more =>
    obtain ⟨hp, hmore⟩ := List.forall_mem_cons.mp hitems
    have hstart := hp.expect "\x7d" (by decide)
    have hstars := hp.expect "**" (by decide)
    have hcolon (more : List Token) : expect ":" (symbol "," :: more) = none := by simp [expect]
    simp [braced, behindCommas, startsWith_eq, hstart, hstars, hp.item (closed_comma _), hcolon,
      display_none hc hmore h]

/-- A call fails if its first argument does. -/
theorem called_none (h : Fails read ts) : called read ts = none := by
  have hargument : argument read .any ts = none := by
    unfold argument
    split
    · exact absurd rfl h.unnamed.2
    · exact absurd h.isStart (by simp [IsStart])
    · exact absurd h.isStart (by simp [IsStart])
    · simp [h.unnamed.named_eq, h.whole]
  rw [called, hargument]
  rfl

end Items

section Entries

/-- Whether no entry of a dictionary can be read from tokens: its key fails, or its value does. -/
inductive FailsEntry (read : Grade → Reader Expression) : List Token → Prop
  | key {ts : List Token} (h : Fails read ts) : FailsEntry read ts
  | value {ts behind : List Token} {e : Expression} (hk : Reads read ts e) (h : Fails read behind) :
      FailsEntry read (ts ++ symbol ":" :: behind)

theorem closed_colon (rest : List Token) : Closed (symbol ":" :: rest) := by
  simp [Closed]

theorem FailsEntry.expect {text : String} (h : FailsEntry read ts) (ht : text ∈ ["\x7d", "**"]) :
    expect text ts = none := by
  have hbegin : ∀ s ∈ ["\x7d", "**"], s ∉ ["-", "None", "True", "False", "(", "[", "\x7b"] ∧
    s ∉ ["(", "[", "\x7b", "<", "<=", "<<", "<<="] := by decide
  cases h with
  | key h => exact h.isStart.expect _ (hbegin text ht).2
  | value hk h => exact hk.expect _ (hbegin text ht).1 _

theorem FailsEntry.entry (h : FailsEntry read ts) : entry read ts = none := by
  rw [Literal.entry, h.expect (by simp)]
  cases h with
  | key h => simp [h.whole]
  | value hk h => simp [hk.whole _ (closed_colon _), expect_self, h.whole]

variable {items : List Entry}

theorem entries_none (hitems : ∀ p ∈ items, p.Reads read) (h : FailsEntry read ts) (n : Nat)
    (found : List (Expression × Expression)) :
    entries read n found (symbol "," :: behindCommas (items.map Entry.tokens) ts) = none := by
  induction items generalizing n found with
  | nil =>
    cases n with
    | zero => rfl
    | succ n => simp [entries, behindCommas, expect_self, h.expect, h.entry]
  | cons p more ih =>
    obtain ⟨hp, hmore⟩ := List.forall_mem_cons.mp hitems
    cases n with
    | zero => rfl
    | succ n =>
      have hbrace (more : List Token) : expect "\x7d" (p.tokens ++ more) = none := by
        rw [Entry.tokens, List.append_assoc]
        exact hp.1.expect _ (by decide) _
      simp [entries, behindCommas, expect_self, hbrace, hp.entry_eq (closed_comma _), ih hmore]

theorem braced_none_of_entry (hitems : ∀ p ∈ items, p.Reads read) (h : FailsEntry read ts) :
    braced read (behindCommas (items.map Entry.tokens) ts) = none := by
  cases items with
  | nil =>
    cases h with
    | key h =>
      have hnone : ∀ p ∈ ([] : List (List Token × Expression)), Reads read p.1 p.2 := nofun
      exact braced_none_of_item hnone h
    | value hk h =>
      rw [List.map_nil, behindCommas, braced_colon hk, h.whole]
      rfl
  | cons p more =>
    obtain ⟨⟨hk, hv⟩, hmore⟩ := List.forall_mem_cons.mp hitems
    rw [List.map_cons, behindCommas, Entry.tokens, List.append_assoc, List.cons_append, braced_colon hk,
      hv.whole _ (closed_comma _)]
    simp [(closed_comma _).isLoop, entries_none hmore h]

end Entries

section Prefixes

variable {level : Nat} {pre word : List Char} {ps : List Token} {pieces : List (List Char)}

/-- The signs that begin with `<`. -/
def lessSigns : List String := ["<", "<=", "<<", "<<="]

/-- Whether a text in front of a `<` is cut into tokens. -/
structure IsPrefix (pre : List Char) (ps : List Token) : Prop where
  lexes : Lexes (fun rest => rest.head? = some '<') pre ps
  length : ps.length ≤ pre.length
  clean : IsClean pre

/-- Whether no expression begins with the tokens of a text and the sign behind it. -/
structure Breaks (pre : List Char) (ps : List Token) : Prop extends IsPrefix pre ps where
  head : ∀ c ∈ pre.head?, c ∉ spaces
  fails : ∀ n s rest, 16 * pre.length + 16 ≤ n → s ∈ lessSigns →
    Fails (expression n) (ps ++ symbol s :: rest)

theorem breaks_nil : Breaks [] [] where
  lexes := Lexes.nil
  length := le_rfl
  clean := nofun
  head := nofun
  fails n s rest hn hs := by
    obtain ⟨n, rfl⟩ := Nat.exists_eq_add_of_le' (show 14 ≤ n by omega)
    have hstart : IsStart (symbol s :: rest) := List.mem_cons_of_mem _ (List.mem_cons_of_mem _
      (List.mem_cons_of_mem _ hs))
    have hatom : atom (expression n) (symbol s :: rest) = none := by
      simp only [lessSigns, List.mem_cons, List.not_mem_nil, or_false] at hs
      rcases hs with rfl | rfl | rfl | rfl <;> rfl
    exact ⟨hstart, trivial, whole_none hstart (primary_none hatom)⟩

/-- A text behind pieces, with a comma and a blank behind each of these. -/
def behindPieces : List (List Char) → List Char → List Char
  | [], text => text
  | piece :: later, text => piece ++ ',' :: ' ' :: behindPieces later text

theorem commas_append (pieces : List (List Char)) (pre tail : List Char) (later : List (List Char)) :
    ∃ more, Value.commas (pieces ++ (pre ++ tail) :: later) = behindPieces pieces pre ++ tail ++ more := by
  induction pieces with
  | nil => cases later <;> simp [Value.commas, behindPieces]
  | cons piece pieces ih =>
    obtain ⟨more, ih⟩ := ih
    refine ⟨more, ?_⟩
    rw [List.cons_append, Value.commas, ih, behindPieces]
    · simp
    · simp

theorem behindCommas_append (tss : List (List Token)) (ps rest : List Token) :
    behindCommas tss (ps ++ rest) = behindCommas tss ps ++ rest := by
  induction tss with
  | nil => rfl
  | cons ts tss ih => simp [behindCommas, ih]

/-- Parts with commas may stand before the text. -/
theorem IsPrefix.behind {tss : List (List Token)} (h : IsPrefix pre ps)
    (hparts : List.Forall₂ (IsPart level) pieces tss) :
    IsPrefix (behindPieces pieces pre) (behindCommas tss ps) := by
  induction hparts with
  | nil => exact h
  | @cons piece ts pieces tss hfirst _ ih =>
    refine ⟨?_, ?_, ?_⟩
    · have hcomma := (lexes_bracket (c := ',') (by decide)).append ih.lexes.blank fun _ _ => trivial
      exact hfirst.lexes.append hcomma fun rest _ => ends_of_mem (by decide) _
    · have := hfirst.length
      have := ih.length
      simp only [behindPieces, behindCommas, List.length_append, List.length_cons]
      omega
    · exact hfirst.clean.append (IsClean.cons (by decide) (ih.clean.cons (by decide)))

/-- A bracket may be opened before the text. -/
theorem IsPrefix.opened {o : Char} (ho : o ∈ ['(', '[', '\x7b']) (h : IsPrefix pre ps) :
    IsPrefix (o :: pre) (symbol (String.singleton o) :: ps) := by
  have hmarks : ∀ o ∈ ['(', '[', '\x7b'], o ∈ ['(', ')', '[', ']', '\x7b', '\x7d', ','] ∧ 32 ≤ o.toNat :=
    List.all_iff_forall_prop.mp (by decide)
  obtain ⟨hmark, hclean⟩ := hmarks o ho
  exact ⟨(lexes_bracket hmark).append h.lexes fun _ _ => trivial, Nat.succ_le_succ h.length,
    List.forall_mem_cons.mpr ⟨hclean, h.clean⟩⟩

theorem length_le_behindPieces (pieces : List (List Char)) (pre : List Char) :
    (∀ piece ∈ pieces, piece.length ≤ (behindPieces pieces pre).length) ∧
      pre.length ≤ (behindPieces pieces pre).length := by
  induction pieces with
  | nil => exact ⟨nofun, le_rfl⟩
  | cons first later ih =>
    obtain ⟨hpieces, hpre⟩ := ih
    simp only [behindPieces, List.length_append, List.length_cons]
    refine ⟨List.forall_mem_cons.mpr ⟨by omega, fun piece hmem => ?_⟩, by omega⟩
    have := hpieces piece hmem
    omega

variable {items : List (List Token × Expression)}

theorem SpellAll.reads_behind (h : SpellAll level pieces items) (pre : List Char)
    (hn : 16 * (behindPieces pieces pre).length + 16 ≤ n) : ∀ p ∈ items, Reads (expression n) p.1 p.2 := by
  intro p hp
  obtain ⟨piece, hmem, hspells⟩ := exists_left_of_mem h hp
  exact hspells.reads n (by have := (length_le_behindPieces pieces pre).1 piece hmem; omega)

/-- What breaks within brackets breaks, together with the items before it. -/
theorem Breaks.enclosed {o : Char} (ho : o ∈ ['(', '[', '\x7b']) (h : SpellAll level pieces items)
    (hb : Breaks pre ps) : Breaks (o :: behindPieces pieces pre)
      (symbol (String.singleton o) :: behindCommas (items.map (·.1)) ps) where
  toIsPrefix := by
    have hparts : List.Forall₂ (IsPart level) pieces (items.map (·.1)) := by
      rw [List.forall₂_map_right_iff]
      exact h.imp fun _ _ hp => hp.toFits.isPart
    exact .opened ho (hb.toIsPrefix.behind hparts)
  head := by
    rintro _ ⟨rfl⟩
    have hspaces : ∀ o ∈ ['(', '[', '\x7b'], o ∉ spaces := List.all_iff_forall_prop.mp (by decide)
    exact hspaces o ho
  fails n s rest hn hs := by
    rw [List.length_cons] at hn
    obtain ⟨n, rfl⟩ := Nat.exists_eq_add_of_le' (show 14 ≤ n by omega)
    have hreads := h.reads_behind pre (n := n) (by omega)
    have hfails := hb.fails n s rest (by have := (length_le_behindPieces pieces pre).2; omega) hs
    rw [List.cons_append, ← behindCommas_append]
    have hstart (ts : List Token) : IsStart (symbol (String.singleton o) :: ts) := by
      simp only [List.mem_cons, List.not_mem_nil, or_false] at ho
      rcases ho with rfl | rfl | rfl <;> simp [IsStart]
    have hatom : atom (expression n) (symbol (String.singleton o) ::
        behindCommas (items.map (·.1)) (ps ++ symbol s :: rest)) = none := by
      simp only [List.mem_cons, List.not_mem_nil, or_false] at ho
      rcases ho with rfl | rfl | rfl
      · exact parenthesized_none hreads hfails
      · exact squareBracketed_none hreads hfails
      · exact braced_none_of_item hreads hfails
    exact ⟨hstart _, trivial, whole_none (hstart _) (primary_none hatom)⟩

/-- Nothing is read where the first argument of a call fails. -/
theorem trailers_none_of_fails (h : Fails read ts) (m : Nat) (e : Expression) :
    trailers read (m + 1) e (symbol "(" :: ts) = none := by
  have hcalled := called_none h
  have hempty := h.isStart.expect ")" (by decide)
  rw [trailers]
  · simp [hcalled]
  · rintro more rfl
    simp [expect] at hempty

/-- A call breaks if its first argument does. -/
theorem Breaks.called (hb : Breaks pre ps) (word : List Char) (hw : word ∈ printedNames) :
    Breaks (word ++ '(' :: pre) (name word :: symbol "(" :: ps) where
  toIsPrefix := by
    obtain ⟨-, -, -, -, hne, hclean⟩ := printedNames_spec hw
    obtain ⟨hlexes, hlength, hpre⟩ := hb.toIsPrefix.opened (o := '(') (by decide)
    have hname : Lexes (fun rest => rest.head? = some '(') word [name word] :=
      (lexes_name hw).weaken fun rest hrest d hd => by
        rw [hrest] at hd
        cases hd
        decide
    refine ⟨hname.append hlexes fun _ _ => rfl, ?_, IsClean.append hclean hpre⟩
    · have := List.length_pos_of_ne_nil hne
      simp only [List.length_cons, List.length_append] at hlength ⊢
      omega
  head := by
    obtain ⟨-, -, -, hhead, hne, -⟩ := printedNames_spec hw
    obtain ⟨c, cs, rfl⟩ := List.exists_cons_of_ne_nil hne
    rintro _ ⟨rfl⟩
    exact (hhead c rfl).1
  fails n s rest hn hs := by
    rw [List.length_append, List.length_cons] at hn
    obtain ⟨n, rfl⟩ := Nat.exists_eq_add_of_le' (show 14 ≤ n by omega)
    have hfails := hb.fails n s rest (by omega) hs
    have hprimary :
        expression (n + 1) .primary (name word :: symbol "(" :: (ps ++ symbol s :: rest)) = none :=
      trailers_none_of_fails hfails _ (.name (Text.namesSet word))
    exact ⟨trivial, by simp [Unnamed], whole_none trivial hprimary⟩

/-- The function of a module may be called as well. -/
theorem Breaks.partialCall (hb : Breaks pre ps) :
    Breaks ("functools".toList ++ '.' :: ("partial".toList ++ '(' :: pre))
      (name "functools".toList :: symbol "." :: name "partial".toList :: symbol "(" :: ps) where
  toIsPrefix := by
    obtain ⟨hlexes, hlength, hclean⟩ := (hb.called "partial".toList (by decide)).toIsPrefix
    have hpoint : Lexes (fun rest => rest.head? = some 'p') ['.'] [symbol "."] :=
      lexes_token (by decide) fun rest hrest => by
        obtain ⟨more, rfl⟩ := List.head?_eq_some_iff.mp hrest
        have hlength : ".".length = 1 := rfl
        simp [Token.read?, mark?, isWordChar, Number.isDigit, symbol?, symbols, List.isPrefixOf, hlength]
    have hmodule : Lexes (fun rest => rest.head? = some '.') "functools".toList [name "functools".toList] :=
      (lexes_name (by decide)).weaken fun rest hrest d hd => by
        rw [hrest] at hd
        cases hd
        decide
    have hwords : IsClean ("functools".toList ++ ['.']) := isClean_of_all (by decide)
    refine ⟨hmodule.append (hpoint.append hlexes fun _ _ => rfl) fun _ _ => rfl, ?_, ?_⟩
    · have hword : "functools".toList.length = 9 := rfl
      simp only [List.length_append, List.length_cons] at hlength ⊢
      omega
    · simpa using hwords.append hclean
  head := by
    rintro _ ⟨rfl⟩
    decide
  fails n s rest hn hs := by
    simp only [List.length_append, List.length_cons] at hn
    obtain ⟨n, rfl⟩ := Nat.exists_eq_add_of_le' (show 14 ≤ n by omega)
    have hfails := hb.fails n s rest (by omega) hs
    have hprimary : expression (n + 1) .primary (name "functools".toList :: symbol "." ::
        name "partial".toList :: symbol "(" :: (ps ++ symbol s :: rest)) = none :=
      trailers_none_of_fails hfails _ .part
    exact ⟨trivial, by simp [Unnamed], whole_none trivial hprimary⟩

/-- Whether no entry of a dictionary begins with the tokens of a text and the sign behind it. -/
structure BreaksEntry (pre : List Char) (ps : List Token) : Prop extends IsPrefix pre ps where
  fails : ∀ n s rest, 16 * pre.length + 16 ≤ n → s ∈ lessSigns →
    FailsEntry (expression n) (ps ++ symbol s :: rest)

theorem Breaks.key (hb : Breaks pre ps) : BreaksEntry pre ps :=
  ⟨hb.toIsPrefix, fun n s rest hn hs => .key (hb.fails n s rest hn hs)⟩

theorem Breaks.value {key : List Char} (hk : Spells level key ts e) (hb : Breaks pre ps) :
    BreaksEntry (key ++ ':' :: ' ' :: pre) (ts ++ symbol ":" :: ps) where
  toIsPrefix := by
    refine ⟨hk.lexes.append hb.lexes.colon fun rest _ => ends_of_mem (by decide) _, ?_,
      hk.clean.append (.cons (by decide) (hb.clean.cons (by decide)))⟩
    have := hk.length
    have := hb.length
    simp only [List.length_append, List.length_cons]
    omega
  fails n s rest hn hs := by
    simp only [List.length_append, List.length_cons] at hn
    rw [List.append_assoc, List.cons_append]
    exact .value (hk.reads n (by omega)) (hb.fails n s rest (by omega) hs)

variable {texts : List (List Char × List Char)} {entries : List Entry}

/-- What breaks within a dictionary breaks, together with the entries before it. -/
theorem BreaksEntry.enclosed (h : SpellEntries level texts entries) (hb : BreaksEntry pre ps) :
    Breaks ('\x7b' :: behindPieces (texts.map entryText) pre)
      (symbol "\x7b" :: behindCommas (entries.map Entry.tokens) ps) where
  toIsPrefix := by
    have hparts : List.Forall₂ (IsPart level) (texts.map entryText) (entries.map Entry.tokens) := by
      rw [List.forall₂_map_left_iff, List.forall₂_map_right_iff]
      exact h.imp fun _ _ hp => hp.1.toFits.entry hp.2.toFits
    exact .opened (o := '\x7b') (by decide) (hb.toIsPrefix.behind hparts)
  head := by
    rintro _ ⟨rfl⟩
    decide
  fails n s rest hn hs := by
    rw [List.length_cons] at hn
    obtain ⟨n, rfl⟩ := Nat.exists_eq_add_of_le' (show 14 ≤ n by omega)
    have hlengths := length_le_behindPieces (texts.map entryText) pre
    have hreads : ∀ q ∈ entries, q.Reads (expression n) := by
      intro q hq
      obtain ⟨p, hmem, hk, hv⟩ := exists_left_of_mem h hq
      have hlength := hlengths.1 (entryText p) (List.mem_map_of_mem hmem)
      rw [entryText, List.length_append, List.length_cons, List.length_cons] at hlength
      exact ⟨hk.reads n (by omega), hv.reads n (by omega)⟩
    have hfails := hb.fails n s rest (by have := hlengths.2; omega) hs
    rw [List.cons_append, ← behindCommas_append]
    have hatom : atom (expression n) (symbol "\x7b" ::
        behindCommas (entries.map Entry.tokens) (ps ++ symbol s :: rest)) = none :=
      braced_none_of_entry hreads hfails
    have hstart (ts : List Token) : IsStart (symbol "\x7b" :: ts) := by simp [IsStart]
    exact ⟨hstart _, trivial, whole_none (hstart _) (primary_none hatom)⟩

end Prefixes

section Reading

variable {pre junk : List Char} {ps : List Token}

theorem lineFeeds_append (h : '\r' ∉ pre) (rest : List Char) :
    Text.lineFeeds (pre ++ rest) = pre ++ Text.lineFeeds rest := by
  induction pre with
  | nil => rfl
  | cons c pre ih =>
    obtain ⟨hc, hpre⟩ := not_or.mp (mt List.mem_cons.mpr h)
    rw [List.cons_append, List.cons_append, ← ih hpre]
    conv_lhs => unfold Text.lineFeeds
    split
    · rename_i heq
      cases heq
    · rename_i heq
      exact absurd (List.cons.inj heq).1.symm hc
    · rename_i heq
      exact absurd (List.cons.inj heq).1.symm hc
    · rename_i heq
      obtain ⟨rfl, rfl⟩ := List.cons.inj heq
      rfl

/-- Tokens are added behind those that were read. -/
theorem exists_of_tokensFrom? {n : Nat} {opened : List String} {read out : List Token} {cs rest : List Char}
    (h : tokensFrom? n opened read cs = some (out, rest)) : ∃ more, out = read.reverse ++ more := by
  induction n generalizing opened read cs with
  | zero => cases h
  | succ n ih =>
    rw [tokensFrom?] at h
    obtain ⟨cs', -, h⟩ := Option.bind_eq_some_iff.mp h
    split at h
    · split at h
      · cases h
        exact ⟨[], (List.append_nil _).symm⟩
      · cases h
    · obtain ⟨⟨t, r⟩, -, h⟩ := Option.bind_eq_some_iff.mp h
      obtain ⟨opened', -, h⟩ := Option.bind_eq_some_iff.mp h
      obtain ⟨more, rfl⟩ := ih h
      exact ⟨t :: more, by simp⟩

/-- The sign that begins with `<` is taken for a symbol. -/
theorem read?_less {t : Token} {rest : List Char} (h : Token.read? ('<' :: junk) = some (t, rest)) :
    ∃ s ∈ lessSigns, t = symbol s := by
  have hsymbols : ∀ s ∈ symbols, s.toList.head? = some '<' → s ∈ lessSigns := by decide
  have hnonempty : ∀ s ∈ symbols, s.toList ≠ [] := by decide
  have hread : Token.read? ('<' :: junk) = symbol? ('<' :: junk) := by
    simp [Token.read?, mark?, isWordChar, Number.isDigit]
  rw [hread, symbol?] at h
  obtain ⟨s, hs, h⟩ := Option.map_eq_some_iff.mp h
  cases h
  have hmem := List.mem_of_find?_eq_some hs
  refine ⟨s, hsymbols s hmem ?_, rfl⟩
  have hpre := List.find?_some hs
  obtain ⟨c, cs, hcs⟩ := List.exists_cons_of_ne_nil (hnonempty s hmem)
  rw [hcs] at hpre ⊢
  rw [List.isPrefixOf_cons_cons, Bool.and_eq_true, beq_iff_eq] at hpre
  rw [hpre.1]
  rfl

/-- The tokens of a text that breaks off go on with the sign. -/
theorem Breaks.exists_of_tokens? (hb : Breaks pre ps) {ts : List Token}
    (h : tokens? (pre ++ '<' :: junk) = some ts) : ∃ s ∈ lessSigns, ∃ more, ts = ps ++ symbol s :: more := by
  have hstart : lineStart (pre ++ '<' :: junk) = some (pre ++ '<' :: junk) := by
    cases pre with
    | nil => exact lineStart_eq (by decide)
    | cons c pre => exact lineStart_eq (hb.head c rfl)
  have hlength := hb.length
  have hfrom := hb.lexes ((pre ++ '<' :: junk).length - ps.length + 1) [] [] ('<' :: junk) rfl
  rw [show ps.length + ((pre ++ '<' :: junk).length - ps.length + 1) = (pre ++ '<' :: junk).length + 1 by
    rw [List.length_append]; omega] at hfrom
  rw [tokens?, hstart, Option.bind_eq_bind, Option.bind_some, hfrom] at h
  obtain ⟨⟨out, rest⟩, hout, h⟩ := Option.bind_eq_some_iff.mp h
  have hts : out = ts := by
    cases rest with
    | nil => exact Option.some.inj h
    | cons c rest =>
      obtain ⟨rest', -, h⟩ := Option.bind_eq_some_iff.mp h
      split at h
      · exact Option.some.inj h
      · cases h
  obtain ⟨opened, -, hout⟩ := Option.bind_eq_some_iff.mp hout
  rw [List.append_nil, tokensFrom?, skip_eq _ (by decide)] at hout
  simp only [Option.bind_eq_bind, Option.bind_some] at hout
  rw [if_neg (by simp)] at hout
  obtain ⟨⟨t, r⟩, hread, hout⟩ := Option.bind_eq_some_iff.mp hout
  obtain ⟨opened', -, hout⟩ := Option.bind_eq_some_iff.mp hout
  obtain ⟨s, hs, rfl⟩ := read?_less hread
  obtain ⟨more, rfl⟩ := exists_of_tokensFrom? hout
  exact ⟨s, hs, more, by rw [← hts]; simp⟩

theorem wholeExpression?_none {length : Nat} {ts : List Token}
    (h : Fails (expression (nestingFor length)) (ts ++ [symbol ""])) : wholeExpression? length ts = none := by
  have hend := h.isStart.expect "" (by decide)
  have hitems : itemsUntil (expression (nestingFor length) .whole) "" (ts ++ [symbol ""]).length false []
      (ts ++ [symbol ""]) = none := by
    rw [List.length_append, List.length_singleton, itemsUntil, hend, h.whole]
    rfl
  rw [wholeExpression?, hitems]
  rfl

/-- A text that breaks off is refused. -/
theorem Breaks.read_eq (hb : Breaks pre ps) (junk : List Char) :
    Literal.read (pre ++ '<' :: junk) = .error .malformed := by
  have hclean {d : Char} (hd : d.toNat < 32) : d ∉ pre := fun hmem => by
    have := hb.clean d hmem
    omega
  have hblank : (pre ++ '<' :: junk).dropWhile (fun c => c = ' ' || c = '\t') = pre ++ '<' :: junk := by
    have hhead : ∀ c ∈ (pre ++ '<' :: junk).head?, c ∉ spaces := by
      cases pre with
      | nil =>
        rintro _ ⟨rfl⟩
        decide
      | cons c pre => exact hb.head
    cases htext : pre ++ '<' :: junk with
    | nil => rfl
    | cons c cs =>
      have hc := hhead c (by rw [htext]; rfl)
      simp only [spaces, List.mem_cons, List.not_mem_nil, or_false, not_or] at hc
      rw [List.dropWhile_cons_of_neg (by simp [hc])]
  have hfeeds : Text.lineFeeds (pre ++ '<' :: junk) = pre ++ '<' :: Text.lineFeeds junk :=
    lineFeeds_append (hclean (by decide)) ('<' :: junk)
  have hnone : expression? (pre ++ '<' :: junk) = none := by
    rw [expression?]
    split
    · rfl
    rw [hblank, hfeeds]
    generalize Text.lineFeeds junk = junk'
    cases htokens : tokens? (pre ++ '<' :: junk') with
    | none => simp [htokens]
    | some ts =>
      obtain ⟨s, hs, more, rfl⟩ := hb.exists_of_tokens? htokens
      have hfails := hb.fails (nestingFor (pre ++ '<' :: junk').length) s (more ++ [symbol ""])
        (by rw [nestingFor, List.length_append]; omega) hs
      have hwhole : wholeExpression? (pre ++ '<' :: junk').length (ps ++ symbol s :: more) = none :=
        wholeExpression?_none (by rw [List.append_assoc]; exact hfails)
      simp [htokens, -List.length_append, hwhole]
  rw [Literal.read, hnone]
  rfl

end Reading

end MacroStubs.Literal
