import MacroStubs.Config.Arguments
import Mathlib.Data.List.Induction

/-! # Flags on a command line

A command line that holds nothing but flags in full, each with the value that it needs, is accepted. The
last value of a flag is the one that counts.
-/

namespace MacroStubs

namespace Flag

/-- The spelling of a flag with two dashes. -/
def longName : Flag → String
  | help => "--help"
  | filename => "--filename"
  | envFile => "--env-file"
  | logDir => "--log-dir"
  | verbose => "--verbose"

theorem ofSpelling?_longName (f : Flag) : ofSpelling? f.longName = some f := by
  cases f <;> decide

theorem not_mem_longName (f : Flag) : '=' ∉ f.longName.toList := by
  cases f <;> decide

/-- No flag is spelled with an equals sign. -/
theorem ofSpelling?_of_mem {s : String} (hs : '=' ∈ s.toList) : ofSpelling? s = none := by
  have hnone : ∀ e ∈ table, '=' ∉ e.1.toList := by decide
  rw [ofSpelling?, List.lookup_eq_none_iff]
  intro e he
  have hne : s ≠ e.1 := fun heq => hnone e he (heq ▸ hs)
  simpa using hne

end Flag

namespace CommandLine
open Arguments

/-- Whether a text cannot be taken for a flag. -/
def isPlain (v : String) : Bool :=
  match v.toList with
  | '-' :: _ :: _ => false
  | _ => true

/-- A flag as a command line has it: with a value behind an equals sign or in the next word, or the flag
that takes none, in one of its spellings. -/
inductive Setting where
  | joined (flag : Flag) (value : String)
  | apart (flag : Flag) (value : String)
  | switch (isShort : Bool)
  deriving DecidableEq, Repr, Inhabited

namespace Setting

/-- The spelling of the flag without a value. -/
def spelling (isShort : Bool) : String := if isShort then "-v" else Flag.verbose.longName

def words : Setting → List String
  | joined f v => [f.longName ++ "=" ++ v]
  | apart f v => [f.longName, v]
  | switch isShort => [spelling isShort]

/-- A value belongs to a flag that takes one. Two dashes are no value, and neither is the next word if it
looks like a flag. -/
def IsWritten : Setting → Prop
  | joined f v => f.takesValue ∧ v ≠ "--"
  | apart f v => f.takesValue ∧ isPlain v
  | switch _ => True

instance : DecidablePred IsWritten
  | joined f v => inferInstanceAs (Decidable (f.takesValue ∧ v ≠ "--"))
  | apart f v => inferInstanceAs (Decidable (f.takesValue ∧ isPlain v))
  | switch _ => inferInstanceAs (Decidable True)

/-- The value that a setting has for a flag. -/
def value? (f : Flag) : Setting → Option String
  | joined f' v | apart f' v => if f' = f then some v else none
  | switch _ => none

def isSwitch : Setting → Bool
  | switch _ => true
  | _ => false

def apply (a : Arguments) : Setting → Arguments
  | joined f v | apart f v => withValue f v a
  | switch _ => { a with verbose := true }

/-- What the words of a setting are. -/
def classified : Setting → List (String × Word)
  | joined f v =>
    [(f.longName ++ "=" ++ v, .flag { flag := some f, spelling := f.longName, value := some v })]
  | apart f v =>
    [(f.longName, .flag { flag := some f, spelling := f.longName, value := none }), (v, .plain)]
  | switch isShort =>
    [(spelling isShort, .flag { flag := some .verbose, spelling := spelling isShort, value := none })]

end Setting

variable {f : Flag} {v word : String} {rest : List String} {later : List (String × Word)} {w : Word}
  {s : Setting} {settings : List Setting}

/-- A value is cut off at the equals sign behind the flag. -/
theorem parted?_longName (f : Flag) (v : String) : parted? (f.longName ++ "=" ++ v) = some (f.longName, v) := by
  have hname : ∀ c ∈ f.longName.toList, decide (c ≠ '=') = true := fun c hc =>
    decide_eq_true fun heq => f.not_mem_longName (heq ▸ hc)
  have hword : (f.longName ++ "=" ++ v).toList = f.longName.toList ++ '=' :: v.toList := by
    simp [String.toList_append]
  rw [parted?, hword, List.dropWhile_append_of_pos hname, List.takeWhile_append_of_pos hname]
  simp

theorem not_isPlain_joined (f : Flag) (v : String) : ¬ isPlain (f.longName ++ "=" ++ v) := by
  cases f <;> simp [isPlain, Flag.longName, String.toList_append]

theorem dashed_of_spelling (hf : Flag.ofSpelling? word = some f) :
    dashed word = .ok (.flag { flag := some f, spelling := word, value := none }) := by
  rw [dashed, hf]
  rfl

theorem dashed_joined (f : Flag) (v : String) : dashed (f.longName ++ "=" ++ v) =
    .ok (.flag { flag := some f, spelling := f.longName, value := some v }) := by
  have hnone : Flag.ofSpelling? (f.longName ++ "=" ++ v) = none :=
    Flag.ofSpelling?_of_mem (by simp [String.toList_append])
  rw [dashed, hnone, parted?_longName]
  simp only [Option.bind_some, f.ofSpelling?_longName]
  rfl

/-- What a word is does not depend on the words behind it, unless it is two dashes. -/
theorem classify_cons (hword : (if isPlain word then .ok .plain else dashed word) = .ok w)
    (hne : word ≠ "--") (hrest : classify rest = .ok later) :
    classify (word :: rest) = .ok ((word, w) :: later) := by
  rw [classify, if_neg hne, hrest]
  unfold isPlain at hword
  dsimp only
  split
  · rename_i hdash
    rw [hdash] at hword
    simp only [Bool.false_eq_true, if_false] at hword
    rw [hword]
    rfl
  · rename_i hother
    split at hword
    · rename_i hdash
      exact absurd hdash (hother _ _)
    · obtain rfl := Except.ok.inj hword
      rfl

theorem classify_spelling (hword : word ∈ f.spellings) (hrest : classify rest = .ok later) :
    classify (word :: rest) =
      .ok ((word, .flag { flag := some f, spelling := word, value := none }) :: later) := by
  have hspelled : ∀ s ∈ f.spellings, Flag.ofSpelling? s = some f ∧ s ≠ "--" ∧ ¬ isPlain s := by
    cases f <;> decide
  obtain ⟨hflag, hne, hplain⟩ := hspelled word hword
  exact classify_cons (by rw [if_neg hplain, dashed_of_spelling hflag]) hne hrest

theorem classify_words (hs : s.IsWritten) (hrest : classify rest = .ok later) :
    classify (s.words ++ rest) = .ok (s.classified ++ later) := by
  cases s with
  | joined f v =>
    refine classify_cons ?_ ?_ hrest
    · rw [if_neg (not_isPlain_joined f v), dashed_joined f v]
    · intro heq
      have hmem := congrArg ('=' ∈ ·.toList) heq
      simp [String.toList_append] at hmem
  | apart f v =>
    have hne : v ≠ "--" := by
      rintro rfl
      exact absurd hs.2 (by decide)
    exact classify_spelling (by cases f <;> decide) (classify_cons (if_pos hs.2) hne hrest)
  | switch isShort => exact classify_spelling (by cases isShort <;> decide) hrest

/-- Settings are taken one after the other. -/
theorem collect_classified (a : Arguments) (hs : s.IsWritten) :
    collect a [] (s.classified ++ later) = collect (s.apply a) [] later := by
  cases s with
  | joined f v | apart f v => simp [Setting.classified, collect, hs.1, Setting.apply]
  | switch isShort =>
    rw [Setting.classified, List.cons_append, List.nil_append, collect.eq_def]
    rfl

theorem classify_settings (hs : ∀ s ∈ settings, s.IsWritten) :
    classify (settings.flatMap Setting.words) = .ok (settings.flatMap Setting.classified) := by
  induction settings with
  | nil => rfl
  | cons s rest ih =>
    obtain ⟨hfirst, hrest⟩ := List.forall_mem_cons.mp hs
    exact classify_words hfirst (ih hrest)

theorem collect_settings (a : Arguments) (hs : ∀ s ∈ settings, s.IsWritten) :
    collect a [] (settings.flatMap Setting.classified) = .accepted (settings.foldl Setting.apply a) := by
  induction settings generalizing a with
  | nil => rfl
  | cons s rest ih =>
    obtain ⟨hfirst, hrest⟩ := List.forall_mem_cons.mp hs
    rw [List.flatMap_cons, collect_classified a hfirst, ih _ hrest, List.foldl_cons]

/-- Settings that are written so that they can be read are accepted. -/
theorem ofWords_settings (hs : ∀ s ∈ settings, s.IsWritten) :
    ofWords (settings.flatMap Setting.words) = .accepted (settings.foldl Setting.apply {}) := by
  rw [ofWords, classify_settings hs]
  exact collect_settings {} hs

/-- The value that counts for a flag, the last one. -/
def lastValue? (f : Flag) (settings : List Setting) : Option String :=
  (settings.filterMap (·.value? f)).getLast?

/-- Two dashes never count. -/
theorem lastValue?_ne_dashes (hs : ∀ s ∈ settings, s.IsWritten) (f : Flag) :
    lastValue? f settings ≠ some "--" := by
  intro hlast
  obtain ⟨s, hmem, hvalue⟩ := List.mem_filterMap.mp (List.mem_of_getLast? hlast)
  have hwritten := hs s hmem
  cases s with
  | joined f' v =>
    obtain ⟨-, ⟨⟩⟩ := Option.ite_none_right_eq_some.mp hvalue
    exact hwritten.2 rfl
  | apart f' v =>
    obtain ⟨-, ⟨⟩⟩ := Option.ite_none_right_eq_some.mp hvalue
    exact absurd hwritten.2 (by decide)
  | switch _ => cases hvalue

/-- What a flag stands for, given the value that counts. -/
def givenOf {α : Type} (g : String → α) : Option String → Given α
  | none => .absent
  | some v => given g v

theorem givenOf_ne_emptied {α : Type} (g : String → α) {value : Option String} (hv : value ≠ some "--") :
    givenOf g value ≠ .emptied := by
  cases value with
  | none => nofun
  | some v =>
    rw [givenOf, given, if_neg fun hdashes => hv (congrArg some hdashes)]
    nofun

theorem value?_givenOf {α : Type} (g : String → α) {value : Option String} (hv : value ≠ some "--") :
    (givenOf g value).value? = value.map g := by
  cases value with
  | none => rfl
  | some v =>
    rw [givenOf, given, if_neg fun hdashes => hv (congrArg some hdashes)]
    rfl

/-- What the flags are given is told by the values that count. -/
theorem foldl_apply (settings : List Setting) : settings.foldl Setting.apply {} =
    { filename := givenOf id (lastValue? .filename settings)
      envFile := givenOf Path.ofText (lastValue? .envFile settings)
      logDir := givenOf Path.ofText (lastValue? .logDir settings)
      verbose := settings.any (·.isSwitch) } := by
  induction settings using List.reverseRecOn with
  | nil => rfl
  | append_singleton settings s ih =>
    rw [List.foldl_append, ih]
    cases s with
    | joined f v | apart f v =>
      cases f <;>
        simp [Setting.apply, lastValue?, Setting.value?, withValue, givenOf, Setting.isSwitch]
    | switch isShort => simp [Setting.apply, lastValue?, Setting.value?, Setting.isSwitch]

end CommandLine
end MacroStubs
