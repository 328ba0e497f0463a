import MacroStubs.Text.Search
import Mathlib.Data.List.Basic

/-! # Words

The words of a text are its longest stretches without a blank. What has no blank itself occurs in a text
as often as in its words, so that it does not matter which blanks stand between them.
-/

namespace MacroStubs.Text

variable {cs word needle : List Char} {b c separator : Char}

/-- The words of a text. -/
def wordsOf (cs : List Char) : List (List Char) := firstWords isBlank cs.length cs

/-- No character is a blank. -/
def IsSolid (cs : List Char) : Prop := ∀ c ∈ cs, isBlank c = false

instance : Decidable (IsSolid cs) :=
  decidable_of_iff (cs.all (!isBlank ·) = true) (by simp [IsSolid])

/-- A text has no blank, or one that stands behind a stretch without any. -/
theorem induction_at_blanks {P : List Char → Prop} (solid : ∀ word, IsSolid word → P word)
    (behind : ∀ word b rest, IsSolid word → isBlank b = true → P rest → P (word ++ b :: rest))
    (cs : List Char) : P cs := by
  suffices h : ∀ word, IsSolid word → P (word ++ cs) from h [] nofun
  induction cs with
  | nil =>
    intro word hw
    rw [List.append_nil]
    exact solid word hw
  | cons c rest ih =>
    intro word hw
    cases hc : isBlank c with
    | true => exact behind word c rest hw hc (ih [] nofun)
    | false =>
      rw [List.append_cons]
      apply ih
      intro d hd
      rcases List.mem_append.mp hd with hd | hd
      · exact hw d hd
      · rwa [List.mem_singleton.mp hd]

/-- A blank in front is passed over. -/
theorem words_cons_blank (hb : isBlank b = true) (fuel n : Nat) (cs : List Char) :
    words isBlank fuel n (b :: cs) = words isBlank fuel n cs := by
  cases fuel with
  | zero => rfl
  | succ fuel => rw [words, words, List.dropWhile_cons_of_pos hb]

/-- A stretch without blanks is a word if nothing stands behind it, or a blank. -/
theorem words_solid_append {rest : List Char} {fuel n : Nat} (hne : word ≠ []) (hw : IsSolid word)
    (hr : ∀ b ∈ rest.head?, isBlank b = true) (hf : 0 < fuel) (hn : 0 < n) :
    words isBlank fuel n (word ++ rest) = word :: words isBlank (fuel - 1) (n - 1) rest := by
  obtain ⟨fuel, rfl⟩ := Nat.exists_eq_add_one.mpr hf
  obtain ⟨n, rfl⟩ := Nat.exists_eq_add_one.mpr hn
  have hsolid : ∀ c ∈ word, (!isBlank c) = true := fun c hc => by rw [hw c hc]; rfl
  have htake : (word ++ rest).takeWhile (!isBlank ·) = word := by
    rw [List.takeWhile_append_of_pos hsolid]
    cases rest with
    | nil => exact List.append_nil word
    | cons b rest => simp [hr b rfl]
  have hdrop : (word ++ rest).dropWhile (!isBlank ·) = rest := by
    rw [List.dropWhile_append_of_pos hsolid]
    cases rest with
    | nil => rfl
    | cons b rest => simp [hr b rfl]
  obtain ⟨c, later, rfl⟩ := List.exists_cons_of_ne_nil hne
  have hc : ¬ isBlank c = true := by simp [hw c List.mem_cons_self]
  rw [words, List.cons_append, List.dropWhile_cons_of_neg hc]
  dsimp only
  rw [← List.cons_append, htake, hdrop, Nat.add_sub_cancel, Nat.add_sub_cancel]

theorem words_nil (fuel n : Nat) : words isBlank fuel n [] = [] := by
  cases fuel <;> rfl

/-- The words that are read off one by one are the pieces between blanks that are not empty. -/
theorem words_eq {fuel n : Nat} (hf : cs.length < fuel) (hn : cs.length ≤ n) :
    words isBlank fuel n cs = (cs.splitOnP isBlank).filter (!·.isEmpty) := by
  induction cs using induction_at_blanks generalizing fuel n with
  | solid word hw =>
    rw [List.splitOnP_eq_singleton hw]
    rcases eq_or_ne word [] with rfl | hne
    · exact words_nil fuel n
    · have hl := List.length_pos_iff.mpr hne
      rw [← List.append_nil word, words_solid_append hne hw (by simp) (by omega) (by omega), words_nil,
        List.append_nil]
      simp [hne]
  | behind word b rest hw hb ih =>
    rw [List.length_append, List.length_cons] at hf hn
    rw [List.splitOnP_append_cons_of_forall_mem hw b hb]
    rcases eq_or_ne word [] with rfl | hne
    · rw [List.nil_append, words_cons_blank hb, ih (by omega) (by omega)]
      rfl
    · have hl := List.length_pos_iff.mpr hne
      rw [words_solid_append hne hw (by simp [hb]) (by omega) (by omega), words_cons_blank hb,
        ih (by omega) (by omega)]
      simp [hne]

theorem wordsOf_eq (cs : List Char) :
    wordsOf cs = (cs.splitOnP isBlank).filter (!·.isEmpty) :=
  words_eq (Nat.lt_succ_self _) (Nat.le_refl _)

@[simp] theorem wordsOf_nil : wordsOf [] = [] := rfl

theorem wordsOf_of_solid (hne : word ≠ []) (hw : IsSolid word) : wordsOf word = [word] := by
  rw [wordsOf_eq, List.splitOnP_eq_singleton hw]
  simp [hne]

/-- Around a blank the words are those of the two parts. -/
theorem wordsOf_append_blank (hb : isBlank b = true) (xs ys : List Char) :
    wordsOf (xs ++ b :: ys) = wordsOf xs ++ wordsOf ys := by
  rw [wordsOf_eq, wordsOf_eq, wordsOf_eq, List.splitOnP_append_cons xs ys hb, List.filter_append]

theorem wordsOf_blanks_append {blanks : List Char} (hb : ∀ b ∈ blanks, isBlank b = true)
    (cs : List Char) : wordsOf (blanks ++ cs) = wordsOf cs := by
  induction blanks with
  | nil => rfl
  | cons b blanks ih =>
    obtain ⟨hb, hblanks⟩ := List.forall_mem_cons.mp hb
    exact (wordsOf_append_blank hb [] (blanks ++ cs)).trans (ih hblanks)

theorem wordsOf_dropWhile (cs : List Char) : wordsOf (cs.dropWhile isBlank) = wordsOf cs := by
  conv_rhs => rw [← List.takeWhile_append_dropWhile (p := isBlank) (l := cs)]
  rw [wordsOf_blanks_append fun b hb => List.all_eq_true.mp List.all_takeWhile b hb]

/-- Pieces that are joined by a blank keep their words. -/
theorem wordsOf_join (hs : isBlank separator = true) (pieces : List (List Char)) :
    wordsOf (join separator pieces) = pieces.flatMap wordsOf := by
  induction pieces with
  | nil => rfl
  | cons piece rest ih =>
    cases rest with
    | nil => simp [join]
    | cons next later =>
      rw [List.flatMap_cons, ← ih, join, wordsOf_append_blank hs]
      exact List.cons_ne_nil next later

/-- How often a text occurs in another one. -/
def occurrences (needle cs : List Char) : Nat := (places needle 0 cs).length

theorem length_places (needle : List Char) (start : Nat) (cs : List Char) :
    (places needle start cs).length = occurrences needle cs := by
  induction cs generalizing start with
  | nil =>
    rw [occurrences, places, places]
    split <;> rfl
  | cons c rest ih =>
    rw [occurrences, places, places]
    split <;> simp [ih]

theorem occurrences_nil (hn : needle ≠ []) : occurrences needle [] = 0 := by
  simp [occurrences, places, hn]

theorem occurrences_cons (needle : List Char) (c : Char) (rest : List Char) :
    occurrences needle (c :: rest) =
      occurrences needle rest + if needle.isPrefixOf (c :: rest) then 1 else 0 := by
  rw [occurrences, places]
  split <;> simp [length_places]

theorem occursIn_eq (hn : needle ≠ []) (cs : List Char) :
    occursIn needle cs = decide (0 < occurrences needle cs) := by
  induction cs with
  | nil => simp [occursIn, occurrences_nil hn, hn]
  | cons c rest ih =>
    rw [occursIn, occurrences_cons, ih]
    cases needle.isPrefixOf (c :: rest) <;> simp

/-- What a text begins with ends before any character that it does not have. -/
theorem isPrefixOf_append_cons (hb : b ∉ needle) (xs ys : List Char) :
    needle.isPrefixOf (xs ++ b :: ys) = needle.isPrefixOf xs := by
  induction xs generalizing needle with
  | nil =>
    cases needle with
    | nil => rfl
    | cons a needle =>
      have ha : a ≠ b := fun h => hb (h ▸ List.mem_cons_self)
      simp [List.isPrefixOf, ha]
  | cons x xs ih =>
    cases needle with
    | nil => rfl
    | cons a needle =>
      rw [List.cons_append, List.isPrefixOf, List.isPrefixOf,
        ih fun h => hb (List.mem_cons_of_mem _ h)]

theorem IsSolid.not_mem (hs : IsSolid needle) (hb : isBlank b = true) : b ∉ needle := by
  intro hm
  rw [hs b hm] at hb
  exact Bool.false_ne_true hb

/-- Across a blank there is no occurrence. -/
theorem occurrences_append_blank (hn : needle ≠ []) (hs : IsSolid needle) (hb : isBlank b = true)
    (xs ys : List Char) :
    occurrences needle (xs ++ b :: ys) = occurrences needle xs + occurrences needle ys := by
  induction xs with
  | nil =>
    rw [List.nil_append, occurrences_cons, occurrences_nil hn]
    have hp := isPrefixOf_append_cons (hs.not_mem hb) [] ys
    rw [List.nil_append] at hp
    rw [hp]
    simp [hn]
  | cons x xs ih =>
    have hp := isPrefixOf_append_cons (hs.not_mem hb) (x :: xs) ys
    rw [List.cons_append, occurrences_cons, occurrences_cons, ih, ← List.cons_append, hp]
    omega

theorem occurrences_of_solid (hn : needle ≠ []) (hw : IsSolid word) :
    occurrences needle word = ((wordsOf word).flatMap (places needle 0)).length := by
  rcases eq_or_ne word [] with rfl | hne
  · exact occurrences_nil hn
  · rw [wordsOf_of_solid hne hw, List.flatMap_singleton]
    rfl

/-- What has no blank occurs within the words alone. -/
theorem occurrences_eq (hn : needle ≠ []) (hs : IsSolid needle) (cs : List Char) :
    occurrences needle cs = ((wordsOf cs).flatMap (places needle 0)).length := by
  induction cs using induction_at_blanks with
  | solid word hw => exact occurrences_of_solid hn hw
  | behind word b rest hw hb ih =>
    rw [occurrences_append_blank hn hs hb, wordsOf_append_blank hb, List.flatMap_append,
      List.length_append, occurrences_of_solid hn hw, ih]

theorem occursIn_of_blank (hn : needle ≠ []) (hs : IsSolid needle)
    (hb : ∀ c ∈ cs, isBlank c = true) : occursIn needle cs = false := by
  have hwords := wordsOf_blanks_append hb []
  rw [List.append_nil, wordsOf_nil] at hwords
  rw [occursIn_eq hn, occurrences_eq hn hs, hwords]
  rfl

end MacroStubs.Text
