import MacroStubs.Proofs.Literal.Fitting

/-! # Displays read back

What is read from the tokens between brackets: the items one by one, if each of them is read up to the
comma or bracket behind it.
-/

namespace MacroStubs.Literal
open Token

variable {read : Grade → Reader Expression} {ts rest : List Token} {e : Expression}

/-- Whether tokens do not begin with a name that is given a value. -/
def Unnamed : List Token → Prop
  | name _ :: symbol s :: _ => s ≠ ":=" ∧ s ≠ "="
  | _ => True

theorem Unnamed.isNaming_eq (h : Unnamed ts) : isNaming ts = false := by
  unfold isNaming
  split
  · exact absurd rfl h.1
  · rfl

/-- Whether tokens in front of closing symbols are read as an expression that may stand as an item. -/
structure Reads (read : Grade → Reader Expression) (ts : List Token) (e : Expression) : Prop where
  isItem : ∀ rest, IsItem (ts ++ rest)
  unnamed : ∀ rest, Closed rest → Unnamed (ts ++ rest)
  unstarred : e.isStarred = false
  whole : ∀ rest, Closed rest → read .whole (ts ++ rest) = some (e, rest)

theorem Unnamed.named_eq (h : Unnamed ts) : named read ts = read .whole ts := by
  unfold named
  split
  · exact absurd rfl h.1
  · rfl

theorem IsItem.item_eq (h : IsItem ts) (hn : Unnamed ts) : item read ts = read .whole ts := by
  rw [item, starredOr, h.expect _ (by decide), hn.named_eq]

theorem Reads.item (h : Reads read ts e) (hrest : Closed rest) :
    item read (ts ++ rest) = some (e, rest) := by
  rw [(h.isItem rest).item_eq (h.unnamed rest hrest), h.whole rest hrest]

theorem Reads.expect (h : Reads read ts e) (text : String)
    (ht : text ∉ ["-", "None", "True", "False", "(", "[", "\x7b"]) (rest : List Token) :
    expect text (ts ++ rest) = none := (h.isItem rest).expect _ ht

theorem startsWith_eq (text : String) (ts : List Token) :
    startsWith text ts = (Literal.expect text ts).isSome := by
  unfold startsWith Literal.expect
  split
  · rename_i s rest
    by_cases h : s = text <;> simp [h]
  · rfl

theorem Closed.isLoop (h : Closed rest) : isLoop rest = false := by
  rw [Literal.isLoop, startsWith_eq, startsWith_eq, h.expect _ (by decide), h.expect _ (by decide)]
  rfl

section Items

variable {items : List (List Token × Expression)} {closing : String}

/-- The symbols behind the last item of a display. -/
def IsClosing (closing : String) : Prop := closing ∈ [")", "]", "\x7d", ""]

theorem IsClosing.closed (h : IsClosing closing) (rest : List Token) : Closed (symbol closing :: rest) := by
  have hall : ∀ s ∈ [")", "]", "\x7d", ""], s ∈ [",", ")", "]", "\x7d", ":", ""] := by decide
  exact hall closing h

theorem IsClosing.expect_comma (h : IsClosing closing) (rest : List Token) :
    expect "," (symbol closing :: rest) = none := by
  have hall : ∀ s ∈ [")", "]", "\x7d", ""], s ≠ "," := by decide
  simp [expect, hall closing h]

theorem expect_self (text : String) (rest : List Token) : expect text (symbol text :: rest) = some rest := by
  simp [expect]

/-- Items with commas between them are read one by one. -/
theorem itemsUntil_eq (hc : IsClosing closing) (hitems : ∀ p ∈ items, Reads read p.1 p.2) (hne : items ≠ [])
    {n : Nat} (hn : items.length ≤ n) (comma : Bool) (found : List Expression) (rest : List Token) :
    itemsUntil (item read) closing n comma found
      (commaTokens (items.map (·.1)) ++ symbol closing :: rest) =
      some ((found.reverse ++ items.map (·.2), comma || decide (1 < items.length)), rest) := by
  have hstart : ∀ s ∈ [")", "]", "\x7d", ""],
      s ∉ ["-", "None", "True", "False", "(", "[", "\x7b"] := by decide
  induction items generalizing n comma found with
  | nil => exact absurd rfl hne
  | cons p more ih =>
    obtain ⟨hp, hmore⟩ := List.forall_mem_cons.mp hitems
    obtain ⟨n, rfl⟩ := Nat.exists_eq_succ_of_ne_zero (show n ≠ 0 by rw [List.length_cons] at hn; omega)
    cases more with
    | nil =>
      simp only [List.map_cons, List.map_nil, commaTokens, itemsUntil]
      rw [hp.expect _ (hstart closing hc), hp.item (hc.closed rest)]
      simp [hc.expect_comma, expect_self]
    | cons second more =>
      have hcomma : Closed (symbol "," ::
          (commaTokens ((second :: more).map (·.1)) ++ symbol closing :: rest)) := by
        simp [Closed]
      simp only [List.map_cons, commaTokens, itemsUntil, List.append_assoc, List.cons_append]
      rw [hp.expect _ (hstart closing hc), hp.item (by simpa using hcomma)]
      have hlater := ih hmore (List.cons_ne_nil _ _) (n := n) (by simpa using hn) true (p.2 :: found)
      simp only [List.map_cons] at hlater
      simp [expect_self, hlater]

variable (first : Expression) (plural : List Expression → Expression)

theorem isLoop_closing (hc : IsClosing closing) (rest : List Token) :
    isLoop (symbol closing :: rest) = false := (hc.closed rest).isLoop

theorem display_single (hc : IsClosing closing) (rest : List Token) :
    display read closing first plural (symbol closing :: rest) = some (plural [first], rest) := by
  simp [display, isLoop_closing hc, hc.expect_comma, expect_self]

/-- A comma may stand behind the last item. -/
theorem display_comma (closing : String) (rest : List Token) :
    display read closing first plural (symbol "," :: symbol closing :: rest) =
      some (plural [first], rest) := by
  have hloop : isLoop (symbol "," :: symbol closing :: rest) = false :=
    Closed.isLoop (by simp [Closed])
  simp [display, hloop, expect_self, itemsUntil]

theorem length_commaTokens (hitems : ∀ p ∈ items, Reads read p.1 p.2) :
    items.length ≤ (commaTokens (items.map (·.1))).length + 1 := by
  induction items with
  | nil => exact Nat.zero_le _
  | cons p more ih =>
    obtain ⟨hp, hmore⟩ := List.forall_mem_cons.mp hitems
    cases more with
    | nil => simp
    | cons second more =>
      have hlater := ih hmore
      simp only [List.map_cons, commaTokens, List.length_append, List.length_cons] at hlater ⊢
      omega

theorem display_items (hc : IsClosing closing) (hitems : ∀ p ∈ items, Reads read p.1 p.2) (hne : items ≠ [])
    (rest : List Token) :
    display read closing first plural
      (symbol "," :: (commaTokens (items.map (·.1)) ++ symbol closing :: rest)) =
      some (plural (first :: items.map (·.2)), rest) := by
  have hloop : isLoop (symbol "," :: (commaTokens (items.map (·.1)) ++ symbol closing :: rest)) = false :=
    Closed.isLoop (by simp [Closed])
  have hlength := length_commaTokens hitems
  have huntil := itemsUntil_eq hc hitems hne
    (n := (commaTokens (items.map (·.1)) ++ symbol closing :: rest).length + 1)
    (by rw [List.length_append]; omega) true [first] rest
  simp only [display, hloop, Bool.false_eq_true, if_false, expect_self, huntil]
  rfl

/-- What square brackets hold. -/
theorem squareBracketed_eq (hitems : ∀ p ∈ items, Reads read p.1 p.2) (rest : List Token) :
    squareBracketed read (commaTokens (items.map (·.1)) ++ symbol "]" :: rest) =
      some (.list (items.map (·.2)), rest) := by
  have hc : IsClosing "]" := by simp [IsClosing]
  cases items with
  | nil => simp [squareBracketed, commaTokens, startsWith]
  | cons p more =>
    obtain ⟨hp, hmore⟩ := List.forall_mem_cons.mp hitems
    cases more with
    | nil =>
      have hstart := hp.expect "]" (by decide) (symbol "]" :: rest)
      simp [squareBracketed, commaTokens, startsWith_eq, hstart, hp.item (hc.closed rest),
        display_single _ _ hc]
    | cons second more =>
      have hstart := hp.expect "]" (by decide)
      have hcomma (more : List Token) : Closed (symbol "," :: more) := by simp [Closed]
      have hdisplay := display_items p.2 .list hc hmore (List.cons_ne_nil _ _) rest
      simp only [List.map_cons] at hdisplay
      simp [squareBracketed, commaTokens, startsWith_eq, hstart, hp.item (hcomma _), hdisplay]

/-- What curly brackets hold without colons. -/
theorem braced_set_eq (hitems : ∀ p ∈ items, Reads read p.1 p.2) (hne : items ≠ []) (rest : List Token) :
    braced read (commaTokens (items.map (·.1)) ++ symbol "\x7d" :: rest) =
      some (.set (items.map (·.2)), rest) := by
  have hc : IsClosing "\x7d" := by simp [IsClosing]
  cases items with
  | nil => exact absurd rfl hne
  | cons p more =>
    obtain ⟨hp, hmore⟩ := List.forall_mem_cons.mp hitems
    cases more with
    | nil =>
      have hstart := hp.expect "\x7d" (by decide) (symbol "\x7d" :: rest)
      have hstars := hp.expect "**" (by decide) (symbol "\x7d" :: rest)
      have hcolon : expect ":" (symbol "\x7d" :: rest) = none := by simp [expect]
      simp [braced, commaTokens, startsWith_eq, hstart, hstars, hp.item (hc.closed rest), hcolon,
        display_single _ _ hc]
    | cons second more =>
      have hstart := hp.expect "\x7d" (by decide)
      have hstars := hp.expect "**" (by decide)
      have hcomma (more : List Token) : Closed (symbol "," :: more) := by simp [Closed]
      have hcolon (more : List Token) : expect ":" (symbol "," :: more) = none := by simp [expect]
      have hdisplay := display_items p.2 .set hc hmore (List.cons_ne_nil _ _) rest
      simp only [List.map_cons] at hdisplay
      simp [braced, commaTokens, startsWith_eq, hstart, hstars, hp.item (hcomma _), hcolon, hdisplay]

/-- A single expression between round brackets is itself. -/
theorem parenthesized_eq (h : Reads read ts e) (rest : List Token) :
    parenthesized read (ts ++ symbol ")" :: rest) = some (e, rest) := by
  have hstart := h.expect ")" (by decide) (symbol ")" :: rest)
  have hyield := h.expect "yield" (by decide) (symbol ")" :: rest)
  have hc : IsClosing ")" := by simp [IsClosing]
  simp [parenthesized, startsWith_eq, hstart, hyield, h.item (hc.closed rest), expect_self, h.unstarred]

/-- A comma behind it makes it a tuple. -/
theorem parenthesized_comma_eq (h : Reads read ts e) (rest : List Token) :
    parenthesized read (ts ++ symbol "," :: symbol ")" :: rest) = some (.tuple [e], rest) := by
  have hstart := h.expect ")" (by decide) (symbol "," :: symbol ")" :: rest)
  have hyield := h.expect "yield" (by decide) (symbol "," :: symbol ")" :: rest)
  have hclosed : Closed (symbol "," :: symbol ")" :: rest) := by simp [Closed]
  have hcomma : expect ")" (symbol "," :: symbol ")" :: rest) = none := by simp [expect]
  simp [parenthesized, startsWith_eq, hstart, hyield, h.item hclosed, hcomma, display_comma]

/-- What round brackets hold, if it is not a single item. -/
theorem parenthesized_items_eq (hitems : ∀ p ∈ items, Reads read p.1 p.2) (hone : items.length ≠ 1)
    (rest : List Token) : parenthesized read (commaTokens (items.map (·.1)) ++ symbol ")" :: rest) =
      some (.tuple (items.map (·.2)), rest) := by
  have hc : IsClosing ")" := by simp [IsClosing]
  cases items with
  | nil => simp [parenthesized, commaTokens, startsWith]
  | cons p more =>
    obtain ⟨hp, hmore⟩ := List.forall_mem_cons.mp hitems
    cases more with
    | nil => exact absurd rfl hone
    | cons second more =>
      have hstart := hp.expect ")" (by decide)
      have hyield := hp.expect "yield" (by decide)
      have hclosed (more : List Token) : Closed (symbol "," :: more) := by simp [Closed]
      have hcomma (more : List Token) : expect ")" (symbol "," :: more) = none := by simp [expect]
      have hdisplay := display_items p.2 .tuple hc hmore (List.cons_ne_nil _ _) rest
      simp only [List.map_cons] at hdisplay
      simp [parenthesized, commaTokens, startsWith_eq, hstart, hyield, hp.item (hclosed _), hcomma, hdisplay]

end Items

section Tails

/-- The tokens behind an item: further items, then the closing symbol. -/
def tailTokens (closing : String) : List (List Token) → List Token → List Token
  | [], rest => symbol closing :: rest
  | tss, rest => symbol "," :: (commaTokens tss ++ symbol closing :: rest)

theorem closed_tailTokens {closing : String} (hc : IsClosing closing) (tss : List (List Token))
    (rest : List Token) : Closed (tailTokens closing tss rest) := by
  cases tss with
  | nil => exact hc.closed rest
  | cons ts tss => simp [tailTokens, Closed]

theorem commaTokens_cons (closing : String) (ts : List Token) (tss : List (List Token)) (rest : List Token) :
    commaTokens (ts :: tss) ++ symbol closing :: rest = ts ++ tailTokens closing tss rest := by
  cases tss <;> simp [tailTokens, commaTokens]

theorem length_tailTokens (closing : String) (tss : List (List Token)) (rest : List Token) :
    tss.length < (tailTokens closing tss rest).length := by
  induction tss with
  | nil => simp [tailTokens]
  | cons ts tss ih =>
    rw [tailTokens, commaTokens_cons, List.length_cons, List.length_cons, List.length_append]
    · omega
    · nofun

end Tails

section Entries

/-- The tokens of an entry, and the expressions of its key and its value. -/
structure Entry where
  key : List Token × Expression
  value : List Token × Expression

def Entry.tokens (p : Entry) : List Token := p.key.1 ++ symbol ":" :: p.value.1

def Entry.expressions (p : Entry) : Expression × Expression := (p.key.2, p.value.2)

def Entry.Reads (read : Grade → Reader Expression) (p : Entry) : Prop :=
  Literal.Reads read p.key.1 p.key.2 ∧ Literal.Reads read p.value.1 p.value.2

variable {entries : List Entry} {p : Entry}

theorem Entry.Reads.entry_eq (h : p.Reads read) (hrest : Closed rest) :
    entry read (p.tokens ++ rest) = some (p.expressions, rest) := by
  obtain ⟨hk, hv⟩ := h
  have hstars := hk.expect "**" (by decide)
  have hcolon (more : List Token) : Closed (symbol ":" :: more) := by simp [Closed]
  simp [Literal.entry, Entry.tokens, Entry.expressions, hstars, hk.whole _ (hcolon _), expect_self,
    hv.whole _ hrest]

/-- Further entries are read one by one. -/
theorem entries_eq (hentries : ∀ p ∈ entries, p.Reads read) {n : Nat} (hn : entries.length < n)
    (found : List (Expression × Expression)) (rest : List Token) :
    Literal.entries read n found (tailTokens "\x7d" (entries.map Entry.tokens) rest) =
      some (.dict (found.reverse ++ entries.map Entry.expressions), rest) := by
  have hc : IsClosing "\x7d" := by simp [IsClosing]
  induction entries generalizing n found with
  | nil =>
    obtain ⟨n, rfl⟩ := Nat.exists_eq_succ_of_ne_zero (show n ≠ 0 by omega)
    simp [tailTokens, Literal.entries, expect]
  | cons p more ih =>
    obtain ⟨hp, hmore⟩ := List.forall_mem_cons.mp hentries
    obtain ⟨n, rfl⟩ := Nat.exists_eq_succ_of_ne_zero (show n ≠ 0 by omega)
    have hlater := ih hmore (n := n) (by simpa using hn) (p.expressions :: found)
    have hbrace (more : List Token) : expect "\x7d" (p.tokens ++ more) = none := by
      rw [Entry.tokens, List.append_assoc]
      exact hp.1.expect _ (by decide) _
    have hentry := hp.entry_eq (closed_tailTokens hc (more.map Entry.tokens) rest)
    rw [List.map_cons, tailTokens, commaTokens_cons, Literal.entries]
    · simp [expect_self, hbrace, hentry, hlater]
    · exact List.cons_ne_nil _ _

/-- A colon behind the first item makes it a key. -/
theorem braced_colon (h : Reads read ts e) (behind : List Token) :
    braced read (ts ++ symbol ":" :: behind) = (do
      let (value, rest) ← read .whole behind
      if isLoop rest then
        let rest ← loops read rest.length rest
        (expect "\x7d" rest).map (.other, ·)
      else Literal.entries read (ts ++ symbol ":" :: behind).length [(e, value)] rest) := by
  have hcolon : Closed (symbol ":" :: behind) := by simp [Closed]
  have hstart := h.expect "\x7d" (by decide) (symbol ":" :: behind)
  have hstars := h.expect "**" (by decide) (symbol ":" :: behind)
  have hnaming := (h.unnamed _ hcolon).isNaming_eq
  rw [braced, startsWith_eq, startsWith_eq, hstart, hstars, h.item hcolon]
  simp only [Option.isSome_none, Bool.false_eq_true, if_false, Option.bind_eq_bind, Option.bind_some,
    expect_self, h.unstarred, hnaming, Bool.or_self]

/-- What curly brackets hold with colons. -/
theorem braced_dict_eq (hentries : ∀ p ∈ entries, p.Reads read) (rest : List Token) :
    braced read (commaTokens (entries.map Entry.tokens) ++ symbol "\x7d" :: rest) =
      some (.dict (entries.map Entry.expressions), rest) := by
  cases entries with
  | nil => simp [braced, commaTokens, startsWith]
  | cons p more =>
    obtain ⟨⟨hk, hv⟩, hmore⟩ := List.forall_mem_cons.mp hentries
    have hclosed := closed_tailTokens (show IsClosing "\x7d" by simp [IsClosing]) (more.map Entry.tokens) rest
    have hlength := length_tailTokens "\x7d" (more.map Entry.tokens) rest
    rw [List.length_map] at hlength
    rw [List.map_cons, commaTokens_cons, Entry.tokens, List.append_assoc, List.cons_append, braced_colon hk,
      hv.whole _ hclosed]
    simp only [Option.bind_eq_bind, Option.bind_some, hclosed.isLoop, Bool.false_eq_true, if_false]
    refine entries_eq hmore ?_ [p.expressions] rest
    simp only [List.length_append, List.length_cons]
    omega

end Entries

section Calls

variable {items : List (List Token × Expression)}

/-- What stands for a value in a call is read like an item. -/
theorem argument_eq (hi : IsItem ts) (hn : Unnamed ts) :
    argument read .any ts = (read .whole ts).map fun (_, rest) => (.any, rest) := by
  unfold argument
  split
  · exact absurd rfl hn.2
  · simp [IsItem, IsOperand] at hi
  · simp [IsItem, IsOperand] at hi
  · rename_i more _ _ _ _ _
    simp only [ne_eq, not_true_eq_false, if_false, hn.named_eq]
    cases read .whole more <;> rfl

theorem Reads.argument_eq (h : Reads read ts e) (hrest : Closed rest) :
    argument read .any (ts ++ rest) = some (.any, rest) := by
  rw [Literal.argument_eq (h.isItem rest) (h.unnamed rest hrest), h.whole rest hrest]
  rfl

/-- Further arguments are read one by one. -/
theorem arguments_eq (hitems : ∀ p ∈ items, Reads read p.1 p.2) {n : Nat} (hn : items.length < n)
    (rest : List Token) :
    arguments read n .any (tailTokens ")" (items.map (·.1)) rest) = some rest := by
  have hc : IsClosing ")" := by simp [IsClosing]
  induction items generalizing n with
  | nil =>
    obtain ⟨n, rfl⟩ := Nat.exists_eq_succ_of_ne_zero (show n ≠ 0 by omega)
    simp [tailTokens, arguments, expect]
  | cons p more ih =>
    obtain ⟨hp, hmore⟩ := List.forall_mem_cons.mp hitems
    obtain ⟨n, rfl⟩ := Nat.exists_eq_succ_of_ne_zero (show n ≠ 0 by omega)
    have hclosing (more : List Token) : expect ")" (p.1 ++ more) = none := hp.expect _ (by decide) more
    have hargument := hp.argument_eq (closed_tailTokens hc (more.map (·.1)) rest)
    rw [List.map_cons, tailTokens, commaTokens_cons, arguments]
    · simp [expect_self, hclosing, hargument, ih hmore (n := n) (by simpa using hn)]
    · exact List.cons_ne_nil _ _

/-- What a call holds. -/
theorem called_eq (hitems : ∀ p ∈ items, Reads read p.1 p.2) (hne : items ≠ []) (rest : List Token) :
    called read (commaTokens (items.map (·.1)) ++ symbol ")" :: rest) = some rest := by
  obtain ⟨p, more, rfl⟩ := List.exists_cons_of_ne_nil hne
  obtain ⟨hp, hmore⟩ := List.forall_mem_cons.mp hitems
  have hclosed := closed_tailTokens (show IsClosing ")" by simp [IsClosing]) (more.map (·.1)) rest
  have hlength := length_tailTokens ")" (more.map (·.1)) rest
  rw [List.length_map] at hlength
  rw [List.map_cons, commaTokens_cons, called, hp.argument_eq hclosed]
  simp only [Option.bind_eq_bind, Option.bind_some, hclosed.isLoop, Bool.and_false, Bool.false_eq_true,
    if_false]
  exact arguments_eq hmore (by rw [List.length_append]; omega) rest

end Calls

end MacroStubs.Literal
