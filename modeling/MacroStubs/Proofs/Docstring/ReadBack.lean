import MacroStubs.Proofs.Docstring.Layout
import MacroStubs.Proofs.Literal.Quotation

/-! # Reading docstrings back

Which docstrings the lines on a sheet give back when they are read as a literal: all but those that
end in three, six, nine and so on double quotes.
-/

namespace MacroStubs
open Text Literal

variable {depth : Nat} {cs body text literal doc : List Char}

theorem toList_writeLine (line : String) (s : Sheet) :
    (s.writeLine line).text.toList =
      s.text.toList ++ (padded (blanks s.depth) line.toList ++ ['\n']) := by
  rw [Sheet.writeLine]
  split
  · rename_i h
    obtain rfl : line = "" := by simpa using h
    simp [Sheet.write, padded]
  · rename_i h
    have hn : line.toList.isEmpty = false := by simpa using h
    simp [Sheet.write, padded, Sheet.indentation, blanks, hn]

theorem toList_writeLines (lines : List String) (s : Sheet) :
    (s.writeLines lines).text.toList =
      s.text.toList ++ lines.flatMap fun line => padded (blanks s.depth) line.toList ++ ['\n'] := by
  induction lines generalizing s with
  | nil => simp [Sheet.writeLines]
  | cons line rest ih =>
    have hs : s.writeLines (line :: rest) = (s.writeLine line).writeLines rest := rfl
    rw [hs, ih, toList_writeLine, Sheet.depth_writeLine, List.flatMap_cons, List.append_assoc]

def tripleQuote : List Char := ['"', '"', '"']

/-- The quotes and what they enclose are all that is written of a docstring. -/
theorem toList_writeLines_docstring (hn : escapeDocstring cs ≠ [])
    (hb : ∀ c ∈ escapeDocstring cs, isLineBoundary c = true → c = '\n')
    (hl : (escapeDocstring cs).getLast? ≠ some '\n') (s : Sheet) :
    (s.writeLines (docstringLines (String.ofList cs))).text.toList =
      s.text.toList ++ (blanks s.depth ++
        (tripleQuote ++ laidOut s.depth (escapeDocstring cs) ++ tripleQuote ++ ['\n'])) := by
  rw [toList_writeLines, docstringLines, String.toList_ofList, lines_eq_splitOn hn hb hl, laidOut]
  by_cases hm : '\n' ∈ escapeDocstring cs
  · obtain ⟨first, line, later, hs⟩ := splitOn_cons_of_mem hm
    rw [if_pos hm, indented_append_newline hs, hs]
    simp [padded, tripleQuote, List.flatMap_map]
  · rw [if_neg hm, splitOn_of_not_mem hm]
    simp [padded, tripleQuote]

/-- A text in triple quotes with nothing behind its closing quotes, which reads as a docstring once
the indentation is taken away. -/
structure ReadsBack (depth : Nat) (literal doc : List Char) : Prop where
  complete : ∃ inner, literal = tripleQuote ++ inner ++ tripleQuote ∧
    ∀ rest, Quotation.read? (literal ++ rest) = some ({ mark := {}, inner }, rest)
  value : ∃ value : String, read literal = .ok (.str value) ∧ unindented depth value.toList = doc

theorem read?_of_denotes (h : Denotes 0 body cs) (rest : List Char) :
    Quotation.read? (tripleQuote ++ body ++ tripleQuote ++ rest) =
      some ({ mark := {}, inner := body }, rest) := by
  have hb := h.body? rest
  have hm := mark?_of_quote (c := '"') (.inl rfl) ('"' :: '"' :: (body ++ tripleQuote ++ rest))
  simp only [tripleQuote, List.append_assoc, List.cons_append, List.nil_append] at hm ⊢
  simp [Quotation.read?, hm, hb]

theorem read_of_denotes (h : Denotes 0 body cs) (hnul : '\x00' ∉ body) (hcr : '\r' ∉ body) :
    read (tripleQuote ++ body ++ tripleQuote) = .ok (.str (String.ofList cs)) := by
  have hq := read?_of_denotes h []
  rw [List.append_nil] at hq
  refine read_of_quotation (.inl rfl) ?_ ?_ hq rfl h.joined?
  · simpa [tripleQuote] using hnul
  · simpa [tripleQuote] using hcr

theorem mem_indented {c : Char} {pad : List Char} (h : c ∈ indented pad cs) : c ∈ pad ∨ c ∈ cs := by
  induction cs with
  | nil => exact .inr h
  | cons d rest ih =>
    rw [indented] at h
    rcases List.mem_cons.mp h with rfl | h
    · exact .inr List.mem_cons_self
    · rcases List.mem_append.mp h with h | h
      · split at h
        · exact .inl h
        · simp at h
      · exact (ih h).imp_right (List.mem_cons_of_mem _)

theorem mem_laidOut {c : Char} (hc : c ∈ laidOut depth cs) : c = ' ' ∨ c = '\n' ∨ c ∈ cs := by
  rw [laidOut] at hc
  split at hc
  · rcases List.mem_append.mp hc with hc | hc
    · rcases mem_indented hc with hc | hc
      · exact .inl (blank_of_mem hc)
      · rcases List.mem_append.mp hc with hc | hc
        · exact .inr (.inr hc)
        · exact .inr (.inl (List.mem_singleton.mp hc))
    · exact .inl (blank_of_mem hc)
  · exact .inr (.inr hc)

theorem not_mem_laidOut {c : Char} (hb : c ≠ ' ') (hn : c ≠ '\n') (h : c ∉ cs) :
    c ∉ laidOut depth cs := by
  intro hc
  rcases mem_laidOut hc with hc | hc | hc
  · exact hb hc
  · exact hn hc
  · exact h hc

theorem read_laidOut (h : Denotes 0 (laidOut depth body) text) (hnul : '\x00' ∉ body)
    (hcr : '\r' ∉ body) :
    read (tripleQuote ++ laidOut depth body ++ tripleQuote) = .ok (.str (String.ofList text)) :=
  read_of_denotes h (not_mem_laidOut (by decide) (by decide) hnul)
    (not_mem_laidOut (by decide) (by decide) hcr)

theorem readsBack_of_denotes (h : Denotes 0 body cs) (hnul : '\x00' ∉ body) (hcr : '\r' ∉ body)
    (depth : Nat) : ReadsBack depth (tripleQuote ++ laidOut depth body ++ tripleQuote) cs := by
  have hd := h.laidOut depth
  refine ⟨⟨laidOut depth body, rfl, read?_of_denotes hd⟩, _, read_laidOut hd hnul hcr, ?_⟩
  rw [String.toList_ofList, unindented_laidOut]

/-- A plain quote at the end of a single line closes the literal before its last quote. -/
theorem read_of_line (h : Denotes 0 body cs) (hm : '\n' ∉ body) (hcr : '\r' ∉ body) :
    read (tripleQuote ++ laidOut depth (body ++ ['"']) ++ tripleQuote) = .error .malformed := by
  have hl : tripleQuote ++ laidOut depth (body ++ ['"']) ++ tripleQuote =
      tripleQuote ++ body ++ tripleQuote ++ ['"'] := by
    rw [laidOut, if_neg (by simpa using hm)]
    simp [tripleQuote]
  have hr : '\r' ∉ tripleQuote ++ body ++ tripleQuote ++ ['"'] := by simpa [tripleQuote] using hcr
  rw [hl]
  exact read_of_open_quote (.inl rfl) (.inl rfl) hr (read?_of_denotes h ['"']) rfl

/-- A plain quote at the end of the last of several lines stands for itself. -/
theorem denotes_of_lines (h : Denotes 0 body cs) (hm : '\n' ∈ body) (depth : Nat) :
    Denotes 0 (laidOut depth (body ++ ['"'])) (laidOut depth (cs ++ ['"'])) := by
  have hp : ∀ c ∈ blanks depth, c ≠ '\\' ∧ c ≠ '"' := by
    intro c hc
    rw [blank_of_mem hc]
    decide
  have hq : Denotes 0 (['"'] ++ ['\n']) (['"'] ++ ['\n']) :=
    .quote (by omega) (.plain (by decide) (by decide) .nil)
  have hb : '\n' ∈ body ++ ['"'] := List.mem_append_left _ hm
  have ht : '\n' ∈ cs ++ ['"'] := List.mem_append_left _ (h.newline_mem_iff.mp hm)
  rw [laidOut, laidOut, if_pos hb, if_pos ht, List.append_assoc, List.append_assoc]
  exact ((h.append hq).indented hp).append (.of_plain hp)

theorem not_readsBack_of_endsInTriples (h : EndsInTriples doc)
    (hnul : '\x00' ∉ escapeDocstring doc) (hcr : '\r' ∉ escapeDocstring doc) :
    ¬ ReadsBack depth (tripleQuote ++ laidOut depth (escapeDocstring doc) ++ tripleQuote) doc := by
  obtain ⟨body, he, hd⟩ := escapeDocstring_of_triples h
  rw [he] at hnul hcr ⊢
  rintro ⟨-, value, hv, hu⟩
  by_cases hm : '\n' ∈ body
  · -- The text read has a backslash more, which its length shows.
    rw [read_laidOut (denotes_of_lines hd hm depth) hnul hcr] at hv
    obtain rfl : String.ofList _ = value := Value.str.inj (Except.ok.inj hv)
    rw [String.toList_ofList, unindented_laidOut] at hu
    have hl := congrArg List.length hu
    have hn : doc ≠ [] := by rintro rfl; exact not_endsInTriples_nil h
    have := List.length_pos_iff.mpr hn
    simp at hl
    omega
  · rw [read_of_line hd hm fun hc => hcr (List.mem_append_left _ hc)] at hv
    simp at hv

/-- A docstring comes back from its lines exactly if its last double quotes do not come in threes.
-/
theorem docstring_readsBack_iff {doc : String} (hne : doc ≠ "")
    (hb : ∀ c ∈ doc.toList, isLineBoundary c = true → c = '\n')
    (hl : doc.toList.getLast? ≠ some '\n') (hnul : '\x00' ∉ doc.toList) (s : Sheet) :
    (∃ literal : List Char,
      (s.writeLines (docstringLines doc)).text =
        s.text ++ Sheet.indentation s.depth ++ String.ofList literal ++ "\n" ∧
      ReadsBack s.depth literal doc.toList) ↔ ¬ EndsInTriples doc.toList := by
  have hcr : '\r' ∉ doc.toList := fun h => absurd (hb '\r' h (by decide)) (by decide)
  have hn : doc.toList ≠ [] := by simpa using hne
  have hnul' := mt (mem_of_mem_escapeDocstring (by decide) (by decide)) hnul
  have hcr' := mt (mem_of_mem_escapeDocstring (by decide) (by decide)) hcr
  have hb' : ∀ c ∈ escapeDocstring doc.toList, isLineBoundary c = true → c = '\n' := by
    intro c hc hi
    refine hb c (mem_of_mem_escapeDocstring ?_ ?_ hc) hi
    · rintro rfl; exact absurd hi (by decide)
    · rintro rfl; exact absurd hi (by decide)
  have ht := toList_writeLines_docstring (escapeDocstring_ne_nil hn) hb'
    (getLast?_escapeDocstring (by decide) hl) s
  rw [String.ofList_toList] at ht
  constructor
  · rintro ⟨literal, hw, hr⟩ he
    have hlit : literal =
        tripleQuote ++ laidOut s.depth (escapeDocstring doc.toList) ++ tripleQuote := by
      rw [hw] at ht
      apply (List.append_left_inj ['\n']).mp
      simpa [Sheet.indentation, blanks] using ht
    exact not_readsBack_of_endsInTriples he hnul' hcr' (hlit ▸ hr)
  · intro he
    refine ⟨_, ?_, readsBack_of_denotes (denotes_escapeDocstring he) hnul' hcr' s.depth⟩
    apply String.toList_inj.mp
    rw [ht]
    simp [Sheet.indentation, blanks]

theorem docstring_readsBack_of_inner_quotes :
    ∃ literal : List Char,
      ((({} : Sheet).indent).writeLines (docstringLines "\\ \"\"\"\"\n\n  or \"\"")).text =
        "" ++ Sheet.indentation 1 ++ String.ofList literal ++ "\n" ∧
      ReadsBack 1 literal "\\ \"\"\"\"\n\n  or \"\"".toList := by
  have hb : ("\\ \"\"\"\"\n\n  or \"\"".toList.all fun c =>
      !isLineBoundary c || c == '\n') = true := by decide +kernel
  refine (docstring_readsBack_iff (by decide) (fun c hc hi => ?_) (by decide) (by decide) _).mpr
    (by decide)
  simpa [hi] using List.all_eq_true.mp hb c hc

/-- Three quotes at the end leave one behind the closing ones. -/
theorem docstring_not_readsBack_of_last_quotes :
    ¬ ∃ literal : List Char,
      (({} : Sheet).writeLines (docstringLines "x\"\"\"")).text =
        "" ++ Sheet.indentation 0 ++ String.ofList literal ++ "\n" ∧
      ReadsBack 0 literal "x\"\"\"".toList := by
  rintro ⟨literal, hw, ⟨inner, -, hq⟩, -⟩
  have hl : literal = "\"\"\"x\\\"\\\"\\\\\"\"\"\"".toList := by
    have ht : (({} : Sheet).writeLines (docstringLines "x\"\"\"")).text.toList =
        "\"\"\"x\\\"\\\"\\\\\"\"\"\"".toList ++ ['\n'] := by decide
    rw [hw] at ht
    apply (List.append_left_inj ['\n']).mp
    simpa [Sheet.indentation] using ht
  have hr : (Quotation.read? (literal ++ [])).map (·.2) = some ['"'] := by rw [hl]; decide
  rw [hq []] at hr
  simp at hr

end MacroStubs
