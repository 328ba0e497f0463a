import MacroStubs.Text.Blank
import Mathlib.Data.List.DropRight
import Mathlib.Data.List.TakeWhile

/-! # Pieces of a text

A text as its pieces between separators, and a text without the blanks at its ends.
-/

namespace MacroStubs.Text

section Lists

variable {separator : Char} {cs piece : List Char} {pieces : List (List Char)}

theorem splitOn_of_not_mem (h : separator ∉ cs) : splitOn separator cs = [cs] := by
  induction cs with
  | nil => rfl
  | cons c rest ih =>
    have hc : c ≠ separator := fun hc => h (hc ▸ List.mem_cons_self)
    rw [splitOn, if_neg hc, ih fun hr => h (List.mem_cons_of_mem _ hr)]

/-- Around any separator the pieces are those of the two parts. -/
theorem splitOn_append (cs rest : List Char) :
    splitOn separator (cs ++ separator :: rest) = splitOn separator cs ++ splitOn separator rest := by
  induction cs with
  | nil => exact if_pos rfl
  | cons c cs ih =>
    rw [List.cons_append, splitOn, splitOn, ih]
    split
    · rfl
    · obtain ⟨piece, pieces, hs⟩ := List.exists_cons_of_ne_nil (splitOn_ne_nil separator cs)
      rw [hs]
      rfl

theorem not_mem_of_mem_splitOn (h : piece ∈ splitOn separator cs) : separator ∉ piece := by
  induction cs generalizing piece with
  | nil => simp_all [splitOn]
  | cons c rest ih =>
    rw [splitOn] at h
    split at h
    · rcases List.mem_cons.mp h with rfl | h
      · simp
      · exact ih h
    · rename_i hc
      obtain ⟨piece, pieces, hs⟩ := List.exists_cons_of_ne_nil (splitOn_ne_nil separator rest)
      rw [hs] at h ih
      rcases List.mem_cons.mp h with rfl | h
      · simp [Ne.symm hc, ih List.mem_cons_self]
      · exact ih (List.mem_cons_of_mem _ h)

/-- Pieces without a separator are the pieces of what they are joined to. -/
theorem splitOn_join (hne : pieces ≠ []) (h : ∀ piece ∈ pieces, separator ∉ piece) :
    splitOn separator (join separator pieces) = pieces := by
  induction pieces with
  | nil => exact absurd rfl hne
  | cons piece rest ih =>
    obtain ⟨hp, hr⟩ := List.forall_mem_cons.mp h
    cases rest with
    | nil => exact splitOn_of_not_mem hp
    | cons next later =>
      rw [join, splitOn_append, splitOn_of_not_mem hp, ih (List.cons_ne_nil _ _) hr]
      · rfl
      · simp

/-- Around a character that is no blank a text is trimmed on the left and on the right. -/
theorem dropEndWhile_dropWhile_append {c : Char} (hc : isBlank c = false) (cs rest : List Char) :
    dropEndWhile isBlank ((cs ++ c :: rest).dropWhile isBlank) =
      cs.dropWhile isBlank ++ c :: dropEndWhile isBlank rest := by
  have hleft : (cs ++ c :: rest).dropWhile isBlank = cs.dropWhile isBlank ++ c :: rest := by
    rw [List.dropWhile_append, List.dropWhile_cons_of_neg (by simp [hc])]
    split
    · rename_i h
      rw [List.isEmpty_iff.mp h, List.nil_append]
    · rfl
  rw [hleft, dropEndWhile, dropEndWhile, List.reverse_append, List.reverse_cons, List.append_assoc,
    List.dropWhile_append]
  split
  · rename_i h
    rw [List.isEmpty_iff.mp h, List.singleton_append, List.dropWhile_cons_of_neg (by simp [hc])]
    simp
  · simp

end Lists

section Texts

variable {ps : List String} {s t : String}

theorem pieces_ne_nil (c : Char) (s : String) : pieces c s ≠ [] :=
  fun h => splitOn_ne_nil c s.toList (List.map_eq_nil_iff.mp h)

theorem not_mem_of_mem_pieces {c : Char} (h : t ∈ pieces c s) : c ∉ t.toList := by
  obtain ⟨cs, hcs, rfl⟩ := List.mem_map.mp h
  rw [String.toList_ofList]
  exact not_mem_of_mem_splitOn hcs

theorem toList_dotted : (".".intercalate ps).toList = join '.' (ps.map String.toList) := by
  induction ps with
  | nil => rfl
  | cons p ps ih =>
    cases ps with
    | nil => simp [join]
    | cons q ps =>
      rw [String.intercalate_cons_cons, String.toList_append, String.toList_append, ih, List.append_assoc]
      rfl

/-- The pieces between dots, with dots between them, are the text. -/
theorem dotted_pieces (s : String) : ".".intercalate (pieces '.' s) = s := by
  have hpieces : (pieces '.' s).map String.toList = splitOn '.' s.toList := by
    simp [pieces, Function.comp_def]
  rw [← String.toList_inj, toList_dotted, hpieces, join_splitOn]

theorem pieces_dotted (hne : ps ≠ []) (h : ∀ p ∈ ps, '.' ∉ p.toList) :
    pieces '.' (".".intercalate ps) = ps := by
  rw [pieces, toList_dotted, splitOn_join (by simpa) (by simpa)]
  simp [Function.comp_def]

theorem pieces_append (s t : String) : pieces '.' (s ++ "." ++ t) = pieces '.' s ++ pieces '.' t := by
  have hlist : (s ++ "." ++ t).toList = s.toList ++ '.' :: t.toList := by simp
  rw [pieces, hlist, splitOn_append, List.map_append]
  rfl

/-- A text is trimmed if neither the first character of what stands before a separator nor the last one of
what stands behind it is blank. -/
theorem trim_append_eq_iff {c : Char} (hc : isBlank c = false) :
    trim (s ++ String.singleton c ++ t) = s ++ String.singleton c ++ t ↔
      s.toList.dropWhile isBlank = s.toList ∧ dropEndWhile isBlank t.toList = t.toList := by
  have hlist : (s ++ String.singleton c ++ t).toList = s.toList ++ c :: t.toList := by simp
  rw [← String.toList_inj, trim, String.toList_ofList, hlist, dropEndWhile_dropWhile_append hc]
  constructor
  · intro h
    have hs : (s.toList.dropWhile isBlank).length ≤ s.toList.length :=
      (List.dropWhile_sublist _).length_le
    have ht : (dropEndWhile isBlank t.toList).length ≤ t.toList.length := by
      rw [dropEndWhile, List.length_reverse, ← t.toList.length_reverse]
      exact (List.dropWhile_sublist _).length_le
    have hlength := congrArg List.length h
    simp only [List.length_append, List.length_cons] at hlength
    obtain ⟨hleft, hright⟩ := List.append_inj h (by omega)
    exact ⟨hleft, (List.cons.inj hright).2⟩
  · rintro ⟨hs, ht⟩
    rw [hs, ht]

/-- A trimmed text stays as it is. -/
theorem trim_trim (s : String) : trim (trim s) = trim s := by
  have hleft : ((trim s).toList).dropWhile isBlank = (trim s).toList := by
    rw [trim, String.toList_ofList, List.dropWhile_eq_self_iff]
    intro hl
    have hinitial : dropEndWhile isBlank (s.toList.dropWhile isBlank) <+: s.toList.dropWhile isBlank :=
      List.rdropWhile_prefix _ _
    rw [hinitial.getElem hl]
    exact List.dropWhile_get_zero_not _ _ _
  have hright : dropEndWhile isBlank (trim s).toList = (trim s).toList := by
    rw [trim, String.toList_ofList]
    exact List.rdropWhile_idempotent _ _
  rw [trim, hleft, hright, String.ofList_toList]

end Texts
end MacroStubs.Text
