import MacroStubs.Proofs.Literal.Quotation
import MacroStubs.Text.Docstring
import Mathlib.Data.List.TakeWhile

/-! # Escaped docstrings

What an escaped docstring denotes between triple quotes. A docstring that ends in a run of double
quotes whose number three divides ends in an escaped run, whose last quote is escaped once more and
so stands plain.
-/

namespace MacroStubs.Text

/-- What stands between triple quotes for a text, behind `k` plain double quotes: never three plain
ones follow each other, and none stands last. -/
inductive Denotes : Nat → List Char → List Char → Prop where
  | nil : Denotes 0 [] []
  | plain {k : Nat} {c : Char} {body text : List Char} : c ≠ '\\' → c ≠ '"' →
      Denotes 0 body text → Denotes k (c :: body) (c :: text)
  | quote {k : Nat} {body text : List Char} : k < 2 →
      Denotes (k + 1) body text → Denotes k ('"' :: body) ('"' :: text)
  | escaped {k : Nat} {c : Char} {body text : List Char} : c = '\\' ∨ c = '"' →
      Denotes 0 body text → Denotes k ('\\' :: c :: body) (c :: text)

variable {k : Nat} {body text body' text' cs : List Char}

theorem Denotes.append (h : Denotes k body text) (h' : Denotes 0 body' text') :
    Denotes k (body ++ body') (text ++ text') := by
  induction h with
  | nil => exact h'
  | plain hb hq _ ih => exact .plain hb hq ih
  | quote hk _ ih => exact .quote hk ih
  | escaped hc _ ih => exact .escaped hc ih

theorem Denotes.of_plain (h : ∀ c ∈ cs, c ≠ '\\' ∧ c ≠ '"') : Denotes 0 cs cs := by
  induction cs with
  | nil => exact .nil
  | cons c cs ih =>
    have hc := h c List.mem_cons_self
    exact .plain hc.1 hc.2 (ih fun d hd => h d (List.mem_cons_of_mem _ hd))

theorem not_denotes_nil : ¬ Denotes (k + 1) [] text := by
  intro h; cases h

/-- The quotes that a text begins with. -/
def openingQuotes (cs : List Char) : Nat := (cs.takeWhile (· = '"')).length

@[simp] theorem openingQuotes_quote : openingQuotes ('"' :: cs) = openingQuotes cs + 1 := by
  simp [openingQuotes]

theorem openingQuotes_of_ne {c : Char} (hc : c ≠ '"') : openingQuotes (c :: cs) = 0 := by
  simp [openingQuotes, hc]

/-- More plain quotes may stand in front as long as there are not three in a row. -/
theorem Denotes.behind_quotes {j : Nat} (h : Denotes j body text) (hn : body ≠ [])
    (hk : k + openingQuotes body ≤ 2) : Denotes k body text := by
  induction h generalizing k with
  | nil => exact absurd rfl hn
  | plain hb hq h _ => exact .plain hb hq h
  | escaped hc h _ => exact .escaped hc h
  | @quote j body text _ h ih =>
    rw [openingQuotes_quote] at hk
    refine .quote (by omega) (ih ?_ (by omega))
    rintro rfl
    exact not_denotes_nil h

/-- Two more quotes do not follow a plain one. -/
theorem Denotes.not_closed (h : Denotes (k + 1) body text) (rest : List Char) :
    ∃ d e more, body ++ '"' :: '"' :: '"' :: rest = d :: e :: more ∧ ¬ (d = '"' ∧ e = '"') := by
  cases h with
  | @plain _ c body _ hb hq h =>
    cases body with
    | nil => exact ⟨c, '"', _, rfl, fun he => hq he.1⟩
    | cons d body => exact ⟨c, d, _, rfl, fun he => hq he.1⟩
  | escaped hc h => exact ⟨'\\', _, _, rfl, fun he => by simp at he⟩
  | quote hk h =>
    cases h with
    | plain hb hq h => exact ⟨'"', _, _, rfl, fun he => hq he.2⟩
    | escaped hc h => exact ⟨'"', '\\', _, rfl, fun he => by simp at he⟩
    | quote hk' h => omega

/-- The first three plain quotes in a row are those behind the body. -/
theorem Denotes.body? (h : Denotes k body text) (rest : List Char) :
    Literal.body? '"' true (body ++ '"' :: '"' :: '"' :: rest) = some (body, rest) := by
  induction h with
  | nil => exact Literal.body?_closed rest
  | @plain _ c body text hb hq h ih =>
    obtain ⟨d, e, more, he⟩ : ∃ d e more, body ++ '"' :: '"' :: '"' :: rest = d :: e :: more := by
      match body with
      | [] => exact ⟨_, _, _, rfl⟩
      | [a] => exact ⟨_, _, _, rfl⟩
      | a :: b :: body => exact ⟨_, _, _, rfl⟩
    rw [List.cons_append, he, Literal.body?_plain hb fun hn => hq hn.1, ← he, ih, Option.map_some]
  | escaped hc _ ih =>
    rw [List.cons_append, List.cons_append, Literal.body?_escaped, ih, Option.map_some]
  | @quote k body text hk h ih =>
    obtain ⟨d, e, more, he, hn⟩ := h.not_closed rest
    rw [List.cons_append, he, Literal.body?_plain (by decide) fun hc => hn hc.2, ← he, ih, Option.map_some]

theorem Denotes.mem {c : Char} (h : Denotes k body text) (hc : c ∈ body) : c = '\\' ∨ c ∈ text := by
  induction h with
  | nil => exact .inr hc
  | plain _ _ _ ih =>
    rcases List.mem_cons.mp hc with rfl | hc
    · exact .inr List.mem_cons_self
    · exact (ih hc).imp_right (List.mem_cons_of_mem _)
  | quote _ _ ih =>
    rcases List.mem_cons.mp hc with rfl | hc
    · exact .inr List.mem_cons_self
    · exact (ih hc).imp_right (List.mem_cons_of_mem _)
  | escaped _ _ ih =>
    rcases List.mem_cons.mp hc with rfl | hc
    · exact .inl rfl
    · rcases List.mem_cons.mp hc with rfl | hc
      · exact .inr List.mem_cons_self
      · exact (ih hc).imp_right (List.mem_cons_of_mem _)

theorem Denotes.nil_iff (h : Denotes k body text) : body = [] ↔ text = [] := by
  cases h <;> simp

/-- The last character stands for itself or behind a backslash. -/
theorem Denotes.getLast? (h : Denotes k body text) : body.getLast? = text.getLast? := by
  induction h with
  | nil => rfl
  | plain _ _ h ih => rw [List.getLast?_cons, List.getLast?_cons, ih]
  | quote _ h ih => rw [List.getLast?_cons, List.getLast?_cons, ih]
  | escaped _ h ih => rw [List.getLast?_cons, List.getLast?_cons, List.getLast?_cons, ih]; rfl

/-- What stands between the quotes denotes the characters of the text. -/
theorem Denotes.codes? (h : Denotes k body text) {n : Nat} (hn : body.length ≤ n) :
    Literal.codes? false false n body = some (text.map Char.toNat) := by
  induction h generalizing n with
  | nil => cases n <;> rfl
  | plain hb _ _ ih =>
    cases n with
    | zero => simp at hn
    | succ n => simp [Literal.codes?, hb, ih (Nat.le_of_succ_le_succ hn)]
  | quote _ _ ih =>
    cases n with
    | zero => simp at hn
    | succ n => simp [Literal.codes?, ih (Nat.le_of_succ_le_succ hn)]
  | @escaped _ c body _ hc _ ih =>
    have he : Literal.escape? false (c :: body) = some ([c.toNat], body) := by
      rcases hc with rfl | rfl <;> simp [Literal.escape?, Literal.simpleEscape?]
    cases n with
    | zero => simp at hn
    | succ n =>
      rw [List.length_cons, List.length_cons] at hn
      simp [Literal.codes?, he, ih (n := n) (by omega)]

theorem Denotes.joined? (h : Denotes k body text) :
    Literal.joined? [{ mark := {}, inner := body }] = some (.str (String.ofList text)) := by
  have hc := h.codes? (Nat.le_refl _)
  simp [Literal.joined?, Literal.Quotation.codes?, hc, Literal.charOf_toNat, Function.comp_def]

/-- The quotes that a text ends with. -/
def closingQuotes (cs : List Char) : Nat := openingQuotes cs.reverse

theorem closingQuotes_replicate (n : Nat) : closingQuotes (List.replicate n '"') = n := by
  simp [closingQuotes, openingQuotes]

theorem closingQuotes_cons {c d : Char} (hd : d ∈ cs) (hq : d ≠ '"') :
    closingQuotes (c :: cs) = closingQuotes cs := by
  have hn : (cs.reverse.takeWhile (· = '"')).length ≠ cs.reverse.length := by
    intro hl
    have he := (List.takeWhile_prefix (l := cs.reverse) fun c => decide (c = '"')).eq_of_length hl
    have := List.takeWhile_eq_self_iff.mp he d (by simpa using hd)
    exact hq (by simpa using this)
  rw [closingQuotes, openingQuotes, List.reverse_cons, List.takeWhile_append, if_neg hn]
  rfl

theorem closingQuotes_cons_of_ne {c : Char} (hc : c ≠ '"') :
    closingQuotes (c :: cs) = closingQuotes cs := by
  have hs : [c].takeWhile (· = '"') = [] := by simp [hc]
  rw [closingQuotes, closingQuotes, openingQuotes, openingQuotes, List.reverse_cons,
    List.takeWhile_append, hs, List.append_nil]
  split
  · rename_i h; exact h.symm
  · rfl

/-- A text is quotes alone, or some other character stands in it. -/
theorem quotes_or_mem (cs : List Char) :
    cs = List.replicate cs.length '"' ∨ ∃ d ∈ cs, d ≠ '"' := by
  rcases Classical.em (∀ d ∈ cs, d = '"') with h | h
  · exact .inl (List.eq_replicate_of_mem h)
  · simp only [not_forall] at h
    obtain ⟨d, hd, hq⟩ := h
    exact .inr ⟨d, hd, hq⟩

/-- The quotes at the end are three, six, nine and so on. -/
def EndsInTriples (cs : List Char) : Prop := 0 < closingQuotes cs ∧ closingQuotes cs % 3 = 0

instance : Decidable (EndsInTriples cs) := inferInstanceAs (Decidable (_ ∧ _))

theorem not_endsInTriples_nil : ¬ EndsInTriples [] := by
  rintro ⟨h, -⟩
  simp [closingQuotes, openingQuotes] at h

theorem endsInTriples_of_ne {c : Char} (hc : c ≠ '"') :
    EndsInTriples (c :: cs) ↔ EndsInTriples cs := by
  rw [EndsInTriples, EndsInTriples, closingQuotes_cons_of_ne hc]

theorem endsInTriples_triple (hn : cs ≠ []) :
    EndsInTriples ('"' :: '"' :: '"' :: cs) ↔ EndsInTriples cs := by
  rcases quotes_or_mem cs with h | ⟨d, hd, hq⟩
  · have hl : 0 < cs.length := List.length_pos_iff.mpr hn
    rw [h, ← List.replicate_succ, ← List.replicate_succ, ← List.replicate_succ, EndsInTriples,
      EndsInTriples, closingQuotes_replicate, closingQuotes_replicate]
    omega
  · have h : closingQuotes ('"' :: '"' :: '"' :: cs) = closingQuotes cs := by
      rw [closingQuotes_cons (d := d) (by simp [hd]) hq,
        closingQuotes_cons (d := d) (by simp [hd]) hq,
        closingQuotes_cons hd hq]
    rw [EndsInTriples, EndsInTriples, h]

theorem endsInTriples_quote (hn : ∀ rest, cs ≠ '"' :: '"' :: rest) :
    EndsInTriples ('"' :: cs) ↔ EndsInTriples cs := by
  rcases quotes_or_mem cs with h | ⟨d, hd, hq⟩
  · have hl : cs.length < 2 := by
      rcases Nat.lt_or_ge cs.length 2 with hl | hl
      · exact hl
      · obtain ⟨m, hm⟩ := Nat.exists_eq_add_of_le' hl
        rw [hm, List.replicate_succ, List.replicate_succ] at h
        exact absurd h (hn _)
    rw [h, ← List.replicate_succ, EndsInTriples, EndsInTriples, closingQuotes_replicate,
      closingQuotes_replicate]
    omega
  · rw [EndsInTriples, EndsInTriples, closingQuotes_cons hd hq]

theorem escapeTriples_triple : escapeTriples ('"' :: '"' :: '"' :: cs) =
    '\\' :: '"' :: '\\' :: '"' :: '\\' :: '"' :: escapeTriples cs := rfl

theorem escapeTriples_backslash : escapeTriples ('\\' :: cs) = '\\' :: '\\' :: escapeTriples cs := rfl

theorem escapeTriples_cons {c : Char} (hb : c ≠ '\\') (hq : ∀ rest, c = '"' → cs ≠ '"' :: '"' :: rest) :
    escapeTriples (c :: cs) = c :: escapeTriples cs := escapeTriples.eq_4 _ _ hq hb

theorem escapeTriples_eq_nil : escapeTriples cs = [] ↔ cs = [] := by
  fun_cases escapeTriples cs <;> simp

theorem escapeLastQuote_cons {c : Char} (hn : cs ≠ []) :
    escapeLastQuote (c :: cs) = c :: escapeLastQuote cs := by
  obtain ⟨d, rest, rfl⟩ := List.exists_cons_of_ne_nil hn
  rw [escapeLastQuote, escapeLastQuote, List.getLast?_cons_cons]
  split <;> rfl

theorem escapeDocstring_backslash :
    escapeDocstring ('\\' :: cs) = '\\' :: '\\' :: escapeDocstring cs := by
  rcases eq_or_ne cs [] with rfl | hn
  · rfl
  · have hn := mt escapeTriples_eq_nil.mp hn
    rw [escapeDocstring, escapeTriples_backslash, escapeLastQuote_cons (List.cons_ne_nil _ _),
      escapeLastQuote_cons hn, escapeDocstring]

theorem escapeDocstring_triple (hn : cs ≠ []) :
    escapeDocstring ('"' :: '"' :: '"' :: cs) =
      '\\' :: '"' :: '\\' :: '"' :: '\\' :: '"' :: escapeDocstring cs := by
  have hn := mt escapeTriples_eq_nil.mp hn
  rw [escapeDocstring, escapeTriples_triple, escapeLastQuote_cons (List.cons_ne_nil _ _),
    escapeLastQuote_cons (List.cons_ne_nil _ _), escapeLastQuote_cons (List.cons_ne_nil _ _),
    escapeLastQuote_cons (List.cons_ne_nil _ _), escapeLastQuote_cons (List.cons_ne_nil _ _),
    escapeLastQuote_cons hn, escapeDocstring]

theorem escapeDocstring_cons {c : Char} (hb : c ≠ '\\')
    (hq : ∀ rest, c = '"' → cs ≠ '"' :: '"' :: rest) (hn : cs ≠ []) :
    escapeDocstring (c :: cs) = c :: escapeDocstring cs := by
  have hn := mt escapeTriples_eq_nil.mp hn
  rw [escapeDocstring, escapeTriples_cons hb hq, escapeLastQuote_cons hn, escapeDocstring]

theorem escapeDocstring_singleton {c : Char} (hb : c ≠ '\\') (hq : c ≠ '"') :
    escapeDocstring [c] = [c] := by
  have hc : [c].getLast? ≠ some '"' := by simpa using hq
  rw [escapeDocstring, escapeTriples_cons hb fun _ h _ => hq h]
  exact if_neg hc

theorem openingQuotes_escapeDocstring_of_ne {c : Char} (hc : c ≠ '"') :
    openingQuotes (escapeDocstring (c :: cs)) = 0 := by
  rcases eq_or_ne c '\\' with rfl | hb
  · rw [escapeDocstring_backslash, openingQuotes_of_ne (by decide)]
  · rcases eq_or_ne cs [] with rfl | hn
    · rw [escapeDocstring_singleton hb hc, openingQuotes_of_ne hc]
    · rw [escapeDocstring_cons hb (fun _ h => absurd h hc) hn, openingQuotes_of_ne hc]

theorem openingQuotes_escapeDocstring_le (hn : ∀ rest, cs ≠ '"' :: '"' :: rest) :
    openingQuotes (escapeDocstring cs) ≤ 1 := by
  match cs with
  | [] => exact Nat.zero_le _
  | [c] =>
    rcases eq_or_ne c '"' with rfl | hc
    · decide
    · rw [openingQuotes_escapeDocstring_of_ne hc]; omega
  | c :: d :: rest =>
    rcases eq_or_ne c '"' with rfl | hc
    · have hd : d ≠ '"' := by rintro rfl; exact hn rest rfl
      rw [escapeDocstring_cons (by decide) (fun _ _ h => hd (List.cons.inj h).1)
          (List.cons_ne_nil _ _),
        openingQuotes_quote, openingQuotes_escapeDocstring_of_ne hd]
    · rw [openingQuotes_escapeDocstring_of_ne hc]; omega

/-- Unless its last quotes come in threes, the escaped docstring denotes the docstring. -/
theorem denotes_escapeDocstring (h : ¬ EndsInTriples cs) : Denotes 0 (escapeDocstring cs) cs := by
  fun_induction escapeTriples cs with
  | case1 => exact .nil
  | case2 rest ih =>
    rcases eq_or_ne rest [] with rfl | hn
    · exact absurd ⟨by decide, by decide⟩ h
    · rw [escapeDocstring_triple hn]
      exact .escaped (.inr rfl) (.escaped (.inr rfl) (.escaped (.inr rfl)
        (ih (mt (endsInTriples_triple hn).mpr h))))
  | case3 rest ih =>
    rw [escapeDocstring_backslash]
    exact .escaped (.inl rfl) (ih (mt (endsInTriples_of_ne (by decide)).mpr h))
  | case4 c rest hq hb ih =>
    rcases eq_or_ne c '"' with rfl | hc
    · rcases eq_or_ne rest [] with rfl | hn
      · exact .escaped (.inr rfl) .nil
      · rw [escapeDocstring_cons hb hq hn]
        have ih := ih (mt (endsInTriples_quote fun more => hq more rfl).mpr h)
        refine .quote (by omega) (ih.behind_quotes (mt ih.nil_iff.mp hn) ?_)
        have := openingQuotes_escapeDocstring_le fun more => hq more rfl
        omega
    · have ih := ih (mt (endsInTriples_of_ne hc).mpr h)
      rcases eq_or_ne rest [] with rfl | hn
      · rw [escapeDocstring_singleton hb hc]
        exact .plain hb hc .nil
      · rw [escapeDocstring_cons hb hq hn]
        exact .plain hb hc ih

theorem openingQuotes_append_le (cs ds : List Char) :
    openingQuotes cs ≤ openingQuotes (cs ++ ds) := by
  rw [openingQuotes, openingQuotes, List.takeWhile_append]
  split
  · rw [List.length_append]; omega
  · exact Nat.le_refl _

/-- The backslash in front of the last of these quotes is itself escaped by the one before it. -/
theorem escapeDocstring_of_triples (h : EndsInTriples cs) :
    ∃ body, escapeDocstring cs = body ++ ['"'] ∧ Denotes 0 body (cs.dropLast ++ ['\\']) := by
  fun_induction escapeTriples cs with
  | case1 => exact absurd h not_endsInTriples_nil
  | case2 rest ih =>
    rcases eq_or_ne rest [] with rfl | hn
    · refine ⟨['\\', '"', '\\', '"', '\\', '\\'], rfl, ?_⟩
      exact .escaped (.inr rfl) (.escaped (.inr rfl) (.escaped (.inl rfl) .nil))
    · obtain ⟨body, he, hd⟩ := ih ((endsInTriples_triple hn).mp h)
      refine ⟨'\\' :: '"' :: '\\' :: '"' :: '\\' :: '"' :: body, ?_, ?_⟩
      · rw [escapeDocstring_triple hn, he]; rfl
      · rw [List.dropLast_cons_of_ne_nil (by simp), List.dropLast_cons_of_ne_nil (by simp),
          List.dropLast_cons_of_ne_nil hn]
        exact .escaped (.inr rfl) (.escaped (.inr rfl) (.escaped (.inr rfl) hd))
  | case3 rest ih =>
    have h := (endsInTriples_of_ne (by decide)).mp h
    have hn : rest ≠ [] := by rintro rfl; exact not_endsInTriples_nil h
    obtain ⟨body, he, hd⟩ := ih h
    refine ⟨'\\' :: '\\' :: body, ?_, ?_⟩
    · rw [escapeDocstring_backslash, he]; rfl
    · rw [List.dropLast_cons_of_ne_nil hn]
      exact .escaped (.inl rfl) hd
  | case4 c rest hq hb ih =>
    have h : EndsInTriples rest := by
      rcases eq_or_ne c '"' with rfl | hc
      · exact (endsInTriples_quote fun more => hq more rfl).mp h
      · exact (endsInTriples_of_ne hc).mp h
    have hn : rest ≠ [] := by rintro rfl; exact not_endsInTriples_nil h
    obtain ⟨body, he, hd⟩ := ih h
    refine ⟨c :: body, ?_, ?_⟩
    · rw [escapeDocstring_cons hb hq hn, he]; rfl
    · rw [List.dropLast_cons_of_ne_nil hn]
      rcases eq_or_ne c '"' with rfl | hc
      · refine .quote (by omega) (hd.behind_quotes (mt hd.nil_iff.mp (by simp)) ?_)
        have hle := openingQuotes_append_le body ['"']
        have := openingQuotes_escapeDocstring_le fun more => hq more rfl
        rw [← he] at hle
        omega
      · exact .plain hb hc hd

/-- Escaping adds nothing but backslashes and quotes. -/
theorem mem_of_mem_escapeDocstring {c : Char} (hb : c ≠ '\\') (hq : c ≠ '"')
    (h : c ∈ escapeDocstring cs) : c ∈ cs := by
  rcases Classical.em (EndsInTriples cs) with ht | ht
  · obtain ⟨body, he, hd⟩ := escapeDocstring_of_triples ht
    rw [he] at h
    rcases List.mem_append.mp h with h | h
    · rcases hd.mem h with h | h
      · exact absurd h hb
      · rcases List.mem_append.mp h with h | h
        · exact List.dropLast_subset _ h
        · exact absurd (List.mem_singleton.mp h) hb
    · exact absurd (List.mem_singleton.mp h) hq
  · exact ((denotes_escapeDocstring ht).mem h).resolve_left hb

theorem escapeDocstring_ne_nil (hn : cs ≠ []) : escapeDocstring cs ≠ [] := by
  rcases Classical.em (EndsInTriples cs) with ht | ht
  · obtain ⟨body, he, -⟩ := escapeDocstring_of_triples ht
    simp [he]
  · exact mt (denotes_escapeDocstring ht).nil_iff.mp hn

theorem getLast?_escapeDocstring {c : Char} (hq : c ≠ '"') (hl : cs.getLast? ≠ some c) :
    (escapeDocstring cs).getLast? ≠ some c := by
  rcases Classical.em (EndsInTriples cs) with ht | ht
  · obtain ⟨body, he, -⟩ := escapeDocstring_of_triples ht
    simpa [he] using Ne.symm hq
  · rwa [(denotes_escapeDocstring ht).getLast?]

end MacroStubs.Text
