import MacroStubs.Proofs.Declaration.PairMacro

/-! # Other callables as macros

A macro that is neither a function nor a pair: a bound method, a class, an object that is called, or
a callable with arguments given. Reading it through an object leaves it as it is, so a caller passes
all of its parameters. The declaration takes the first one for the object if the documentation holds
the mark, whatever the macro is.
-/

namespace MacroStubs

variable {w : World} {σ : State} {v obj : Value} {name id : String} {ps : ParameterList} {m : Method}

theorem ofMacro_of_callable (hv : v.isPlainFunction = false) (hp : v.pair? = none) :
    Attribute.ofMacro σ obj v = .value v := by
  rw [Attribute.ofMacro, hv, hp, Bool.and_false, Bool.false_and]
  rfl

/-- Such a macro is not bound to the object. -/
theorem MeansMacro.read_callable (h : MeansMacro σ obj name v id) (hv : v.isPlainFunction = false)
    (hp : v.pair? = none) : (Reach.of w).read σ obj name = .ok v := by
  rw [Reach.of_eq, Reach.read_within]
  refine Attribute.readThrough_of_value ?_
  rw [h.step_eq, ofMacro_of_callable hv hp]

theorem Macro.ofValue_of_not_pair (hp : v.pair? = none) : ofValue σ v = .callable v := by
  rw [ofValue, hp]

/-- What is declared of a macro that is called as it is, and that it is declared as soon as its
documentation can be told. -/
theorem Entry.declares_callable {e : Entry} (he : e.entry = .callable v)
    (hps : signature w (Reach.of w) σ v = .ok ps) {doc : Option String}
    (hdoc : e.entry.docstring (Reach.of w) σ = .ok doc) :
    (∃ m, e.Declares w σ m) ∧
      ∀ m, e.Declares w σ m → m.static = !isMarked doc ∧
        m.callerParameters = if isMarked doc then Macro.dropReceiver ps else ps := by
  have hany : (e.reflect w (Reach.of w) σ).parametersOrAny = .ok ps := by
    refine Reflection.parametersOrAny_of_ok ?_
    rw [Entry.reflect, he]
    exact hps
  have hi : (e.reflect w (Reach.of w) σ).includesReceiver = true := by
    rw [Entry.reflect, he]
    rfl
  constructor
  · exact ⟨_, Reflection.method?_eq_ok.mpr ⟨ps, doc, hany, hdoc, rfl⟩⟩
  · intro m hm
    obtain ⟨qs, other, hqs, hother, rfl⟩ := Reflection.method?_eq_ok.mp hm
    obtain rfl : qs = ps := Except.ok.inj (hqs.symm.trans hany)
    obtain rfl : other = doc := Except.ok.inj (hother.symm.trans hdoc)
    rw [hi]
    exact ⟨rfl, Method.callerParameters_callable _ other qs⟩

/-- Reading the macro through an object gives the macro itself. Its declaration leaves a caller the
parameters of the macro unless the documentation holds the mark and the first parameter is
positional: then the declaration takes that one for the object. -/
theorem callable_declaration_agrees_iff (h : MeansMacro σ obj name v id)
    (hv : v.isPlainFunction = false) (hp : v.pair? = none)
    (hps : signature w (Reach.of w) σ v = .ok ps) :
    (Reach.of w).read σ obj name = .ok v ∧
      ∀ doc, (Macro.ofValue σ v).docstring (Reach.of w) σ = .ok doc →
        ∃ m, Entry.Declares w σ { name, entry := .ofValue σ v } m ∧ m.static = !isMarked doc ∧
          (m.callerParameters = ps ↔
            ¬ (isMarked doc = true ∧ Declaration.startsWithReceiver true ps = true)) := by
  refine ⟨h.read_callable hv hp, fun doc hdoc => ?_⟩
  obtain ⟨⟨m, hm⟩, hall⟩ := Entry.declares_callable
    (e := { name, entry := .ofValue σ v }) (Macro.ofValue_of_not_pair hp) hps hdoc
  obtain ⟨hstatic, hcaller⟩ := hall m hm
  refine ⟨m, hm, hstatic, ?_⟩
  rw [hcaller]
  cases isMarked doc with
  | true => simp [Macro.dropReceiver_eq_self_iff]
  | false => simp

namespace Greeter

/-- A function that greets one person. -/
def greet : Value :=
  .function "greet" "greet" [{ name := "self" }, { name := "name" }] (.str "@instantiated") .record

/-- A function that greets any number of people. -/
def greetAll : Value :=
  .function "greetAll" "greetAll" [{ name := "self" }, { name := "names", kind := .extraPositional }]
    (.str "@instantiated") .record

/-- A method of the greeter. -/
def method (f : Value) : Value := .bound none f (.objectRef "greeter")

def site : Site :=
  (Site.empty default)
    |>.addClass "Greeter" "Greeter" "Greeter" "app" [] .null
      [("greet", greet), ("greetAll", greetAll)]
    |>.addObject "greeter" (.defined "Greeter") []
    |>.addClass "Basket" "Basket" "Basket" "app" [rootClass] .null []
    |>.addObject "basket" (.defined "Basket") []

def macros : List (Value × Value) :=
  Table.put [(.str "greet", method greet)] (.str "greetAll") (method greetAll)

/-- The class of the basket has registered both methods of the greeter. -/
def state : State := site.state.putInClass (.defined "Basket") ownField (.dict macros)

theorem isMacroOf_method {name : String} {f : Value}
    (hf : Table.get? macros (Value.str name) = some (method f))
    (hn : state.inLineage (.defined "Basket") name = none)
    (hr : Text.beginsWith name "__" = false) :
    IsMacroOf state (.objectRef "basket") name (method f) "Basket" where
  classOf := rfl
  isObject := rfl
  finds := rfl
  answers := rfl
  registered := ⟨[], .defined "Basket", [rootClass, objectClass], rfl, by simp, macros, rfl, hf⟩
  reader := rfl
  notHeld := hn
  notOwn := rfl
  notReserved := hr

theorem isMacroOf_greetAll :
    IsMacroOf state (.objectRef "basket") "greetAll" (method greetAll) "Basket" :=
  isMacroOf_method Table.get?_put_str rfl (by decide +kernel)

theorem isMacroOf_greet :
    IsMacroOf state (.objectRef "basket") "greet" (method greet) "Basket" := by
  refine isMacroOf_method ?_ rfl (by decide +kernel)
  rw [macros, Table.get?_put_str_of_ne (by decide), Table.get?_cons, if_pos (beq_str.mpr rfl)]

end Greeter

/-- The method takes all names at once, so nothing is taken for the object. -/
theorem greetAll_declaration_agrees :
    (Reach.of Greeter.site.world).read Greeter.state (.objectRef "basket") "greetAll" =
        .ok (Greeter.method Greeter.greetAll) ∧
      ∃ m, Entry.Declares Greeter.site.world Greeter.state
          { name := "greetAll", entry := .ofValue Greeter.state (Greeter.method Greeter.greetAll) }
          m ∧
        m.static = false ∧ m.callerParameters = [{ name := "names", kind := .extraPositional }] := by
  have hps : signature Greeter.site.world (Reach.of Greeter.site.world) Greeter.state
      (Greeter.method Greeter.greetAll) = .ok [{ name := "names", kind := .extraPositional }] := rfl
  obtain ⟨hread, h⟩ := callable_declaration_agrees_iff Greeter.isMacroOf_greetAll.meansMacro
    rfl rfl hps
  obtain ⟨m, hm, hstatic, hcaller⟩ := h (shownDocumentation (.str "@instantiated")) rfl
  have hmarked : isMarked (shownDocumentation (.str "@instantiated")) = true := by decide +kernel
  rw [hmarked] at hstatic
  exact ⟨hread, m, hm, hstatic, hcaller.mpr fun hc => absurd hc.2 (by decide)⟩

/-- The method takes a name and is declared without any. -/
theorem greet_declaration_disagrees :
    (Reach.of Greeter.site.world).read Greeter.state (.objectRef "basket") "greet" =
        .ok (Greeter.method Greeter.greet) ∧
      signature Greeter.site.world (Reach.of Greeter.site.world) Greeter.state
        (Greeter.method Greeter.greet) = .ok [{ name := "name" }] ∧
      ∃ m, Entry.Declares Greeter.site.world Greeter.state
          { name := "greet", entry := .ofValue Greeter.state (Greeter.method Greeter.greet) } m ∧
        m.callerParameters = [] := by
  have hps : signature Greeter.site.world (Reach.of Greeter.site.world) Greeter.state
      (Greeter.method Greeter.greet) = .ok [{ name := "name" }] := rfl
  have hdoc : (Macro.ofValue Greeter.state (Greeter.method Greeter.greet)).docstring
      (Reach.of Greeter.site.world) Greeter.state =
        .ok (shownDocumentation (.str "@instantiated")) := rfl
  obtain ⟨⟨m, hm⟩, hall⟩ := Entry.declares_callable
    (e := { name := "greet", entry := .ofValue Greeter.state (Greeter.method Greeter.greet) })
    rfl hps hdoc
  have hmarked : isMarked (shownDocumentation (.str "@instantiated")) = true := by decide +kernel
  obtain ⟨-, hcaller⟩ := hall m hm
  rw [hmarked, if_pos rfl] at hcaller
  exact ⟨Greeter.isMacroOf_greet.meansMacro.read_callable rfl rfl, hps, m, hm, hcaller⟩

end MacroStubs
