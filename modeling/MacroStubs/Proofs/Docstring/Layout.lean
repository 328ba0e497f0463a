import MacroStubs.Proofs.Docstring.Escape
import MacroStubs.Proofs.Text.Pieces
import MacroStubs.Stub.Sheet

/-! # Layout of docstrings

The characters that a sheet holds once a docstring is written on it. A docstring of several lines is
indented behind each line feed, and taking the indentation away again gives the docstring back.
-/

namespace MacroStubs.Text

variable {k depth : Nat} {cs first line pad rest body text : List Char} {later : List (List Char)}

theorem splitOn_flatMap (hl : ∀ line ∈ later, '\n' ∉ line) (hr : '\n' ∉ rest) :
    splitOn '\n' (later.flatMap (· ++ ['\n']) ++ rest) = later ++ [rest] := by
  induction later with
  | nil => exact splitOn_of_not_mem hr
  | cons line later ih =>
    rw [List.flatMap_cons, List.append_assoc, List.append_assoc, List.singleton_append,
      splitOn_append, splitOn_of_not_mem (hl line List.mem_cons_self),
      ih fun l h => hl l (List.mem_cons_of_mem _ h)]
    rfl

/-- The lines of a text whose only boundaries are line feeds and that ends in none. -/
theorem lines_eq_splitOn (hn : cs ≠ []) (hb : ∀ c ∈ cs, isLineBoundary c = true → c = '\n')
    (hl : cs.getLast? ≠ some '\n') : lines cs = splitOn '\n' cs := by
  induction cs with
  | nil => exact absurd rfl hn
  | cons c rest ih =>
    have hr : c ≠ '\r' := by
      rintro rfl
      exact absurd (hb '\r' List.mem_cons_self (by decide)) (by decide)
    rw [lines.eq_3 _ _ fun _ h _ => hr h, splitOn]
    rcases eq_or_ne rest [] with rfl | he
    · have hc : c ≠ '\n' := by rintro rfl; exact hl rfl
      have hc' : ¬ isLineBoundary c = true := fun h => hc (hb c List.mem_cons_self h)
      rw [if_neg hc, if_neg hc']
      rfl
    · obtain ⟨d, more, rfl⟩ := List.exists_cons_of_ne_nil he
      rw [List.getLast?_cons_cons] at hl
      rw [ih he (fun c h => hb c (List.mem_cons_of_mem _ h)) hl]
      rcases eq_or_ne c '\n' with rfl | hc
      · rfl
      · have hc' : ¬ isLineBoundary c = true := fun h => hc (hb c List.mem_cons_self h)
        refine (if_neg hc').trans (Eq.trans ?_ (if_neg hc).symm)
        cases splitOn '\n' (d :: more) <;> rfl

/-- A line behind the indentation, which an empty line does without. -/
def padded (pad line : List Char) : List Char := if line.isEmpty then [] else pad ++ line

/-- A text whose lines but the first are padded. -/
def indented (pad : List Char) : List Char → List Char
  | [] => []
  | c :: rest =>
    c :: ((if c = '\n' ∧ rest.head?.any (· ≠ '\n') then pad else []) ++ indented pad rest)

theorem head?_append_newline (hs : splitOn '\n' cs = first :: later) :
    (cs ++ ['\n']).head?.any (· ≠ '\n') = !first.isEmpty := by
  cases cs with
  | nil =>
    obtain ⟨rfl, -⟩ := List.cons.inj hs
    rfl
  | cons c rest =>
    obtain ⟨piece, pieces, hp⟩ := List.exists_cons_of_ne_nil (splitOn_ne_nil '\n' rest)
    rw [splitOn, hp] at hs
    split at hs
    · rename_i hc
      obtain ⟨rfl, -⟩ := List.cons.inj hs
      simp [hc]
    · rename_i hc
      obtain ⟨rfl, -⟩ := List.cons.inj hs
      simp [hc]

theorem indented_append_newline (hs : splitOn '\n' cs = first :: later) :
    indented pad (cs ++ ['\n']) =
      first ++ '\n' :: later.flatMap fun line => padded pad line ++ ['\n'] := by
  induction cs generalizing first later with
  | nil =>
    obtain ⟨rfl, rfl⟩ := List.cons.inj hs
    simp [indented]
  | cons c rest ih =>
    obtain ⟨piece, pieces, hp⟩ := List.exists_cons_of_ne_nil (splitOn_ne_nil '\n' rest)
    have ih := ih hp
    rw [splitOn, hp] at hs
    rw [List.cons_append, indented, ih]
    split at hs
    · rename_i hc
      obtain ⟨rfl, rfl⟩ := List.cons.inj hs
      rw [head?_append_newline hp, hc]
      cases piece <;> simp [padded]
    · rename_i hc
      obtain ⟨rfl, rfl⟩ := List.cons.inj hs
      simp [hc]

theorem Denotes.head?_newline (h : Denotes k body text) :
    body.head?.any (· ≠ '\n') = text.head?.any (· ≠ '\n') := by
  cases h with
  | nil => rfl
  | plain _ _ _ => rfl
  | quote _ _ => rfl
  | escaped hc _ => rcases hc with rfl | rfl <;> rfl

theorem Denotes.newline_mem_iff (h : Denotes k body text) : '\n' ∈ body ↔ '\n' ∈ text := by
  induction h with
  | nil => exact Iff.rfl
  | plain _ _ _ ih => rw [List.mem_cons, List.mem_cons, ih]
  | quote _ _ ih => rw [List.mem_cons, List.mem_cons, ih]
  | escaped hc _ ih => rcases hc with rfl | rfl <;> simp [ih]

theorem Denotes.indented (h : Denotes k body text) (hp : ∀ c ∈ pad, c ≠ '\\' ∧ c ≠ '"') :
    Denotes k (indented pad body) (indented pad text) := by
  induction h with
  | nil => exact .nil
  | @plain _ c body text hb hq h ih =>
    rw [Text.indented, Text.indented, h.head?_newline]
    refine .plain hb hq (Denotes.append ?_ ih)
    split
    · exact .of_plain hp
    · exact .nil
  | quote hk _ ih => exact .quote hk ih
  | escaped hc _ ih => rcases hc with rfl | rfl <;> exact .escaped (by simp) ih

/-- The blanks at a depth. -/
def blanks (depth : Nat) : List Char := List.replicate (4 * depth) ' '

theorem blank_of_mem {c : Char} (h : c ∈ blanks depth) : c = ' ' := List.eq_of_mem_replicate h

/-- What stands between the quotes on a sheet. The closing quotes of several lines have a line of
their own. -/
def laidOut (depth : Nat) (cs : List Char) : List Char :=
  if '\n' ∈ cs then indented (blanks depth) (cs ++ ['\n']) ++ blanks depth else cs

theorem Denotes.laidOut (h : Denotes 0 body text) (depth : Nat) :
    Denotes 0 (laidOut depth body) (laidOut depth text) := by
  have hp : ∀ c ∈ blanks depth, c ≠ '\\' ∧ c ≠ '"' := by
    intro c hc
    rw [blank_of_mem hc]
    decide
  have hn : Denotes 0 ['\n'] ['\n'] := .plain (by decide) (by decide) .nil
  simp only [Text.laidOut, h.newline_mem_iff]
  split
  · exact ((h.append hn).indented hp).append (.of_plain hp)
  · exact h

/-- A text of several lines without the last line and without the blanks at a depth in front of the
others but the first. -/
def unindented (depth : Nat) (cs : List Char) : List Char :=
  match splitOn '\n' cs with
  | [] => []
  | [line] => line
  | first :: later => join '\n' (first :: later.dropLast.map (·.drop (4 * depth)))

theorem splitOn_cons_of_mem (h : '\n' ∈ cs) :
    ∃ first line later, splitOn '\n' cs = first :: line :: later := by
  induction cs with
  | nil => simp at h
  | cons c rest ih =>
    obtain ⟨piece, pieces, hp⟩ := List.exists_cons_of_ne_nil (splitOn_ne_nil '\n' rest)
    rw [splitOn]
    split
    · exact ⟨[], piece, pieces, by rw [hp]⟩
    · rename_i hc
      have hr : '\n' ∈ rest := by
        rcases List.mem_cons.mp h with h | h
        · exact absurd h.symm hc
        · exact h
      obtain ⟨first, line, later, he⟩ := ih hr
      exact ⟨c :: first, line, later, by rw [he]⟩

theorem padded_drop : (padded (blanks depth) line).drop (4 * depth) = line := by
  cases line with
  | nil => simp [padded]
  | cons c rest => simp [padded, blanks]

theorem newline_not_mem_padded (h : '\n' ∉ line) : '\n' ∉ padded (blanks depth) line := by
  rw [padded]
  split
  · simp
  · simp [h, blanks]

/-- Taking the indentation away undoes the layout. -/
theorem unindented_laidOut (depth : Nat) (cs : List Char) :
    unindented depth (laidOut depth cs) = cs := by
  rw [laidOut]
  split
  · rename_i hn
    obtain ⟨first, line, later, hs⟩ := splitOn_cons_of_mem hn
    have hw : ∀ l ∈ first :: line :: later, '\n' ∉ l := fun l hl => not_mem_of_mem_splitOn (hs ▸ hl)
    have hm : ∀ l ∈ first :: (line :: later).map (padded (blanks depth)), '\n' ∉ l := by
      intro l hl
      rcases List.mem_cons.mp hl with rfl | hl
      · exact hw _ List.mem_cons_self
      · obtain ⟨w, hl', rfl⟩ := List.mem_map.mp hl
        exact newline_not_mem_padded (hw w (List.mem_cons_of_mem _ hl'))
    have hb : '\n' ∉ blanks depth := fun h => absurd (blank_of_mem h) (by decide)
    have hl : splitOn '\n' (indented (blanks depth) (cs ++ ['\n']) ++ blanks depth) =
        first :: (line :: later).map (padded (blanks depth)) ++ [blanks depth] := by
      rw [← splitOn_flatMap hm hb, indented_append_newline hs]
      simp [List.flatMap_map]
    rw [unindented, hl]
    simp only [List.map_cons, List.cons_append]
    rw [← List.cons_append, ← List.map_cons, List.dropLast_concat, List.map_map]
    have hd : ((·.drop (4 * depth)) ∘ padded (blanks depth)) = id := by
      funext l
      exact padded_drop
    rw [hd, List.map_id, ← hs, join_splitOn]
  · rename_i hn
    rw [unindented, splitOn_of_not_mem hn]

end MacroStubs.Text
