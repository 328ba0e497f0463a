import MacroStubs.Proofs.Declaration.FunctionMacro
import MacroStubs.Proofs.Docstring.Cleaning

/-! # The mark

Whether a macro takes the object that it is called on is told by a mark in its documentation. It is
sought in the documentation as it is shown, cleaned, and stands there exactly if it stands in the text
that the macro holds: neither its declaration nor what binds a function to an object depends on tabs,
indentation or empty lines.
-/

namespace MacroStubs

variable {w : World} {r : Reach} {σ : State} {held : Value}

theorem receiverMark_ne_nil : receiverMark.toList ≠ [] := by decide

theorem isSolid_receiverMark : Text.IsSolid receiverMark.toList := by decide

/-- The mark is shown exactly if it is held. -/
theorem isMarked_shownDocumentation (doc : String) :
    isMarked (shownDocumentation (.str doc)) = Text.occursIn receiverMark.toList doc.toList := by
  rw [shownDocumentation, Text.cleanDocstring]
  split
  · rename_i hblank
    have hb : ∀ c ∈ doc.toList, Text.isBlank c = true := List.all_eq_true.mp hblank
    rw [Text.occursIn_of_blank receiverMark_ne_nil isSolid_receiverMark hb]
    rfl
  · rw [isMarked, String.toList_ofList,
      Text.occursIn_clean receiverMark_ne_nil isSolid_receiverMark]

namespace Macro

/-- What a macro shows the documentation of: the callable itself, or the method as its class holds it,
without what makes it a static or a class method. -/
def documented (σ : State) : Macro → Except Failure Value
  | callable handle => .ok handle
  | method owner name => (raw σ owner name).map unbound

theorem docstring_of_documented {m : Macro} (h : m.documented σ = .ok held) :
    m.docstring r σ = cleanedDocumentation (r.read σ held) := by
  cases m with
  | callable handle =>
    cases h
    rfl
  | method owner name =>
    obtain ⟨v, hv, rfl⟩ := map_eq_ok.mp h
    rw [docstring, hv]
    rfl

theorem docstring_of_text {m : Macro} {doc : String} (h : m.documented σ = .ok held)
    (hdoc : r.read σ held "__doc__" = .ok (.str doc)) :
    m.docstring r σ = .ok (shownDocumentation (.str doc)) := by
  rw [docstring_of_documented h, cleanedDocumentation, hdoc]
  rfl

end Macro

/-- Cleaning keeps the words of a documentation, and the mark as often as it stands there. So the text
that a macro holds decides by itself: the macro is declared as a method of an object exactly if the mark
stands in the text, and exactly then a function is bound to the object that it is read through. -/
theorem mark_of_documentation (w : World) (σ : State) (doc : String) :
    let mark := receiverMark.toList
    let marked := Text.occursIn mark doc.toList
    Text.wordsOf (Text.clean doc.toList) = Text.wordsOf doc.toList ∧
      Text.occurrences mark (Text.clean doc.toList) = Text.occurrences mark doc.toList ∧
      Text.occursIn mark (Text.clean doc.toList) = marked ∧
      ∀ v held, (Macro.ofValue σ v).documented σ = .ok held →
        (Reach.of w).read σ held "__doc__" = .ok (.str doc) →
        (Macro.ofValue σ v).isInstantiated (Reach.of w) σ = .ok marked ∧
          (∀ name m, Entry.Declares w σ { name, entry := .ofValue σ v } m → m.static = !marked) ∧
          (v.isPlainFunction = true → ∀ obj name id, MeansMacro σ obj name v id →
            (Reach.of w).read σ obj name = .ok (if marked then .bound none v obj else v)) := by
  intro mark marked
  have hne := receiverMark_ne_nil
  have hsolid := isSolid_receiverMark
  refine ⟨Text.wordsOf_clean _, Text.occurrences_clean hne hsolid _, Text.occursIn_clean hne hsolid _,
    fun v held hheld hread => ?_⟩
  have hshown := Macro.docstring_of_text hheld hread
  have hmarked : isMarked (shownDocumentation (.str doc)) = marked := isMarked_shownDocumentation doc
  refine ⟨?_, fun name m hm => ?_, fun hv obj name id hmeans => ?_⟩
  · rw [Macro.isInstantiated, hshown, ← hmarked]
    rfl
  · obtain ⟨ps, shown, -, hdoc, rfl⟩ := Reflection.method?_eq_ok.mp hm
    obtain rfl : shownDocumentation (.str doc) = shown := Except.ok.inj (hshown.symm.trans hdoc)
    rw [hmarked]
  · have hheld : (Macro.ofValue σ v).docstring (Reach.of w) σ = _ := docstring_of_plain hv
    have hsame := Except.ok.inj (hheld.symm.trans hshown)
    rw [hmeans.read_plain hv, hsame, hmarked]

namespace Jug

/-- The mark stands on an indented line, behind a tab. -/
def marked : String := "\tPours a cup.\n\n \t  @instantiated\t\n\t"

/-- Two lines have the halves of the mark. -/
def parted : String := "Spills.\n\t@instan\n\ttiated"

def pour : Value := .function "pour" "pour" [{ name := "self" }] (.str marked) (.returns .null)

def spill : Value := .function "spill" "spill" [{ name := "self" }] (.str parted) (.returns .null)

def site : Site :=
  ((Site.empty default).addClass "Jug" "Jug" "Jug" "app" [rootClass] .null []).addObject
    "jug" (.defined "Jug") []

def macros : List (Value × Value) := Table.put [(.str "pour", pour)] (.str "spill") spill

/-- The class of the jug has registered both functions. -/
def state : State := site.state.putInClass (.defined "Jug") ownField (.dict macros)

theorem meansMacro {name : String} {f : Value} (hf : Table.get? macros (Value.str name) = some f)
    (hn : state.inLineage (.defined "Jug") name = none)
    (hr : Text.beginsWith name "__" = false) :
    MeansMacro state (.objectRef "jug") name f "Jug" :=
  IsMacroOf.meansMacro
    { classOf := rfl
      isObject := rfl
      finds := rfl
      answers := rfl
      registered := ⟨[], .defined "Jug", [rootClass, objectClass], rfl, by simp, macros, rfl, hf⟩
      reader := rfl
      notHeld := hn
      notOwn := rfl
      notReserved := hr }

theorem meansMacro_pour : MeansMacro state (.objectRef "jug") "pour" pour "Jug" := by
  refine meansMacro ?_ rfl (by decide +kernel)
  rw [macros, Table.get?_put_str_of_ne (by decide), Table.get?_cons, if_pos (beq_str.mpr rfl)]

theorem meansMacro_spill : MeansMacro state (.objectRef "jug") "spill" spill "Jug" :=
  meansMacro Table.get?_put_str rfl (by decide +kernel)

end Jug

open Jug in
/-- One function is bound to the jug, and the other is not: its cleaned documentation does not have the
mark either. -/
theorem jug_mark_of_documentation :
    (Reach.of site.world).read state (.objectRef "jug") "pour" =
        .ok (.bound none pour (.objectRef "jug")) ∧
      (Macro.ofValue state pour).isInstantiated (Reach.of site.world) state = .ok true ∧
      (Reach.of site.world).read state (.objectRef "jug") "spill" = .ok spill ∧
      (Macro.ofValue state spill).isInstantiated (Reach.of site.world) state = .ok false := by
  have hmarked : Text.occursIn receiverMark.toList marked.toList = true := by decide +kernel
  have hparted : Text.occursIn receiverMark.toList parted.toList = false := by decide +kernel
  obtain ⟨-, -, -, h⟩ := mark_of_documentation site.world state marked
  obtain ⟨-, -, -, h'⟩ := mark_of_documentation site.world state parted
  obtain ⟨hinstance, -, hread⟩ := h pour pour rfl rfl
  obtain ⟨hinstance', -, hread'⟩ := h' spill spill rfl rfl
  rw [hmarked] at hinstance hread
  rw [hparted] at hinstance' hread'
  exact ⟨hread rfl _ _ _ meansMacro_pour, hinstance, hread' rfl _ _ _ meansMacro_spill, hinstance'⟩

end MacroStubs
