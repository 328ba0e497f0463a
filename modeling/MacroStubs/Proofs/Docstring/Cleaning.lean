import MacroStubs.Proofs.Text.Words
import MacroStubs.Text.Docstring

/-! # Cleaned docstrings

Cleaning changes the blanks of a docstring and nothing else: tabs become blanks, what is cut off the
lines is blank, and the lines that go are empty. So the words stay as they are, each in one piece and
none joined to the next, and whatever has no blank occurs as often as before.
-/

namespace MacroStubs.Text

variable {line word needle : List Char} {lines : List (List Char)} {b : Char} {n : Nat}

theorem isBlank_space : isBlank ' ' = true := by decide

/-- A stretch without blanks has no tabs to fill up. -/
theorem expandTabs_solid_append (hw : IsSolid word) (column : Nat) (rest : List Char) :
    expandTabs column (word ++ rest) = word ++ expandTabs (column + word.length) rest := by
  induction word generalizing column with
  | nil => rfl
  | cons c word ih =>
    obtain ⟨hc, hword⟩ := List.forall_mem_cons.mp hw
    have ht : c ≠ '\t' := by rintro rfl; exact absurd hc (by decide)
    have hn : ¬ (c = '\n' ∨ c = '\r') := by
      rintro (rfl | rfl) <;> exact absurd hc (by decide)
    rw [List.cons_append, expandTabs, if_neg ht, if_neg hn, ih hword, List.length_cons,
      Nat.add_assoc, Nat.add_comm 1, List.cons_append]

/-- In the place of a blank stand blanks, at least one. -/
theorem exists_expandTabs_blank (hb : isBlank b = true) (column : Nat) (rest : List Char) :
    ∃ first blanks later, isBlank first = true ∧ (∀ c ∈ blanks, isBlank c = true) ∧
      expandTabs column (b :: rest) = first :: (blanks ++ expandTabs later rest) := by
  rw [expandTabs]
  split
  · obtain ⟨n, hn⟩ := Nat.exists_eq_add_of_le' (show 1 ≤ 8 - column % 8 by omega)
    refine ⟨' ', List.replicate n ' ', column + (8 - column % 8), isBlank_space, ?_, ?_⟩
    · intro c hc
      rw [List.eq_of_mem_replicate hc]
      exact isBlank_space
    · rw [hn, List.replicate_succ]
      rfl
  · split
    · exact ⟨b, [], _, hb, nofun, rfl⟩
    · exact ⟨b, [], _, hb, nofun, rfl⟩

theorem wordsOf_expandTabs (column : Nat) (cs : List Char) :
    wordsOf (expandTabs column cs) = wordsOf cs := by
  induction cs using induction_at_blanks generalizing column with
  | solid word hw =>
    have h := expandTabs_solid_append hw column []
    rw [List.append_nil, expandTabs, List.append_nil] at h
    rw [h]
  | behind word b rest hw hb ih =>
    obtain ⟨first, blanks, later, hfirst, hblanks, he⟩ :=
      exists_expandTabs_blank hb (column + word.length) rest
    rw [expandTabs_solid_append hw, he, wordsOf_append_blank hfirst, wordsOf_append_blank hb,
      wordsOf_blanks_append hblanks, ih]

/-- No line with content begins with fewer blanks than the margin has. -/
theorem margin_le (hl : line ∈ lines) (hi : indentation? line = some n) : margin lines ≤ n :=
  List.min?_getD_le_of_mem (List.mem_filterMap.mpr ⟨line, hl, hi⟩)

theorem isBlank_of_mem_take_margin (hl : line ∈ lines) :
    ∀ c ∈ line.take (margin lines), isBlank c = true := by
  cases hb : line.all isBlank with
  | true => exact fun c hc => List.all_eq_true.mp hb c (List.mem_of_mem_take hc)
  | false =>
    have hi : indentation? line = some (line.takeWhile isBlank).length := by
      rw [indentation?, hb, if_neg Bool.false_ne_true]
    have hp : line.take (margin lines) <+: line.takeWhile isBlank :=
      List.prefix_of_prefix_length_le (List.take_prefix _ _) (List.takeWhile_prefix _)
        (Nat.le_trans (List.length_take_le _ _) (margin_le hl hi))
    exact fun c hc => List.all_eq_true.mp List.all_takeWhile c (hp.mem hc)

/-- Only blanks are cut off a line. -/
theorem wordsOf_drop_margin (hl : line ∈ lines) :
    wordsOf (line.drop (margin lines)) = wordsOf line := by
  conv_rhs => rw [← List.take_append_drop (margin lines) line]
  rw [wordsOf_blanks_append (isBlank_of_mem_take_margin hl)]

theorem filter_dropWhile_isEmpty (lines : List (List Char)) :
    (lines.dropWhile List.isEmpty).filter (!·.isEmpty) = lines.filter (!·.isEmpty) := by
  induction lines with
  | nil => rfl
  | cons line lines ih =>
    cases line with
    | nil => exact ih
    | cons c line => rfl

theorem filter_dropEmptyEnds (lines : List (List Char)) :
    (dropEmptyEnds lines).filter (!·.isEmpty) = lines.filter (!·.isEmpty) := by
  rw [dropEmptyEnds, filter_dropWhile_isEmpty, List.filter_reverse, filter_dropWhile_isEmpty,
    List.filter_reverse, List.reverse_reverse]

theorem flatMap_wordsOf_filter (lines : List (List Char)) :
    (lines.filter (!·.isEmpty)).flatMap wordsOf = lines.flatMap wordsOf := by
  induction lines with
  | nil => rfl
  | cons line lines ih => cases line <;> simp [ih]

/-- The lines that go have no words. -/
theorem flatMap_wordsOf_dropEmptyEnds (lines : List (List Char)) :
    (dropEmptyEnds lines).flatMap wordsOf = lines.flatMap wordsOf := by
  rw [← flatMap_wordsOf_filter, filter_dropEmptyEnds, flatMap_wordsOf_filter]

theorem flatMap_wordsOf_cleanLines (lines : List (List Char)) :
    (cleanLines lines).flatMap wordsOf = lines.flatMap wordsOf := by
  cases lines with
  | nil => rfl
  | cons first later =>
    rw [cleanLines, flatMap_wordsOf_dropEmptyEnds, List.flatMap_cons, List.flatMap_cons,
      wordsOf_dropWhile, List.flatMap_map,
      List.flatMap_congr fun line hl => wordsOf_drop_margin hl]

/-- Cleaning keeps the words. -/
theorem wordsOf_clean (doc : List Char) : wordsOf (clean doc) = wordsOf doc := by
  have hs : isBlank '\n' = true := by decide
  calc wordsOf (clean doc)
      = (cleanLines (splitOn '\n' (expandTabs 0 doc))).flatMap wordsOf := wordsOf_join hs _
    _ = (splitOn '\n' (expandTabs 0 doc)).flatMap wordsOf := flatMap_wordsOf_cleanLines _
    _ = wordsOf (join '\n' (splitOn '\n' (expandTabs 0 doc))) := (wordsOf_join hs _).symm
    _ = wordsOf (expandTabs 0 doc) := by rw [join_splitOn]
    _ = wordsOf doc := wordsOf_expandTabs 0 doc

/-- What has no blank occurs in a cleaned docstring as often as in the docstring itself. -/
theorem occurrences_clean (hn : needle ≠ []) (hs : IsSolid needle) (doc : List Char) :
    occurrences needle (clean doc) = occurrences needle doc := by
  rw [occurrences_eq hn hs, wordsOf_clean, ← occurrences_eq hn hs]

theorem occursIn_clean (hn : needle ≠ []) (hs : IsSolid needle) (doc : List Char) :
    occursIn needle (clean doc) = occursIn needle doc := by
  rw [occursIn_eq hn, occurrences_clean hn hs, ← occursIn_eq hn]

end MacroStubs.Text
