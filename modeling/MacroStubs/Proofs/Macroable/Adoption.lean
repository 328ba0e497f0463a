import MacroStubs.Proofs.Macroable.Meaning

/-! # Adoption

What becomes of the meanings of names when a class adopts the routines of a source. The routines have
distinct names, so none of them is in the way of another one, and which of them are registered is told by
the meanings before the first.
-/

namespace MacroStubs

variable {w : World} {r : Reach} {σ : State} {c d : ClassId} {name : String} {source : Value}
variable {members : List (String × Value)} {names : List String} {classes : List ClassId}

theorem nodup_eraseDups {α : Type} [BEq α] [LawfulBEq α] (xs : List α) : xs.eraseDups.Nodup := by
  match xs with
  | [] => exact .nil
  | x :: rest =>
    have ih := nodup_eraseDups (rest.filter fun y => !y == x)
    rw [List.eraseDups_cons]
    refine List.nodup_cons.mpr ⟨fun hm => ?_, ih⟩
    simpa using (List.mem_filter.mp (List.mem_eraseDups.mp hm)).2
termination_by xs.length
decreasing_by exact Nat.lt_succ_of_le (List.length_filter_le _ _)

namespace Members

theorem nodup_names (h : Members.names r σ source = .ok names) : names.Nodup := by
  have hsorted : ∀ {told : List String}, sortedNames told = names → names.Nodup := by
    rintro told rfl
    exact nodup_eraseDups _
  unfold Members.names at h
  split at h
  · exact hsorted (pure_eq_ok.mp h)
  · obtain ⟨own, -, h⟩ := bind_eq_ok.mp h
    exact hsorted (pure_eq_ok.mp h)
  · split at h
    · obtain ⟨lister, -, h⟩ := bind_eq_ok.mp h
      split at h
      · obtain ⟨told, -, h⟩ := bind_eq_ok.mp h
        split at h
        · exact hsorted (pure_eq_ok.mp h)
        · exact hsorted (pure_eq_ok.mp h)
        · cases h
      · rw [← pure_eq_ok.mp h]
        exact .nil
    · obtain ⟨own, -, h⟩ := bind_eq_ok.mp h
      exact hsorted (pure_eq_ok.mp h)

/-- Members keep the order of the names that were asked for. -/
theorem sublist_of_readAll (h : readAll r σ source names = .ok members) :
    (members.map (·.1)).Sublist names := by
  induction names generalizing members with
  | nil =>
    rw [← pure_eq_ok.mp h]
    exact .slnil
  | cons name rest ih =>
    rw [readAll] at h
    obtain ⟨found, -, h⟩ := bind_eq_ok.mp h
    split at h
    · obtain ⟨later, hlater, h⟩ := bind_eq_ok.mp h
      rw [← pure_eq_ok.mp h]
      split
      · exact (ih hlater).cons_cons name
      · exact (ih hlater).cons name
    · exact (ih h).cons name

/-- No two routines of a source have one name. -/
theorem nodup_routines (h : routines r σ source = .ok members) : (members.map (·.1)).Nodup := by
  obtain ⟨names, hnames, hread⟩ := bind_eq_ok.mp h
  exact (nodup_names hnames).sublist (sublist_of_readAll hread)

/-- The members that are not private. -/
def offered (members : List (String × Value)) : List (String × Value) :=
  members.filter fun e => !Text.beginsWith e.1 "_"

end Members

/-- The members that adopting them registers: those that are not private, and if none is replaced, mean
nothing yet. -/
def State.wanted (σ : State) (c : ClassId) (replace : Bool) (members : List (String × Value)) :
    List (String × Value) :=
  (Members.offered members).filter fun e => replace || (σ.meaning? c e.1).isNone

namespace State

variable {replace : Bool} {member : Value} {rest : List (String × Value)}

theorem wanted_cons_of_private (hp : Text.beginsWith name "_" = true) :
    σ.wanted c replace ((name, member) :: rest) = σ.wanted c replace rest := by
  rw [wanted, Members.offered, List.filter_cons_of_neg (by simp [hp])]
  rfl

theorem wanted_cons (hp : Text.beginsWith name "_" = false) :
    σ.wanted c replace ((name, member) :: rest) =
      if replace || (σ.meaning? c name).isNone then (name, member) :: σ.wanted c replace rest
      else σ.wanted c replace rest := by
  rw [wanted, Members.offered, List.filter_cons_of_pos (by simp [hp]), List.filter_cons]
  rfl

theorem nodup_wanted (hn : (members.map (·.1)).Nodup) :
    ((σ.wanted c replace members).map (·.1)).Nodup :=
  hn.sublist ((List.filter_sublist.trans List.filter_sublist).map _)

theorem mem_wanted {e : String × Value} : e ∈ σ.wanted c replace members ↔
    e ∈ Members.offered members ∧ (replace = true ∨ σ.meaning? c e.1 = none) := by
  rw [wanted, List.mem_filter, Bool.or_eq_true, Option.isNone_iff_eq_none]

end State

namespace Family

/-- Macros that are put into one registry leave the family. -/
theorem withMacros (hf : Family σ classes) (hc : c ∈ classes) (macros : List (String × Value)) :
    Family (σ.withMacros c macros) classes where
  hierarchy := hf.hierarchy.putInClass hc
  first d hd := by
    rw [State.lineage_withMacros]
    exact hf.first d hd
  macroable d hd k hk := by
    rw [State.lineage_withMacros] at hk
    rw [State.isMacroable_withMacros]
    exact hf.macroable d hd k hk
  alone := by
    rw [State.lineage_withMacros]
    exact hf.alone
  above := by
    rw [State.lineage_withMacros]
    exact hf.above
  free name hn := by
    rw [← hf.free name hn]
    exact State.inClass_putInClass_elsewhere hc (.inl hf.hierarchy.not_mem_rootMetaclass)

theorem register_run (hf : Family σ classes) (hc : c ∈ classes) (name : String) (v : Value) :
    (Registry.register c (.str name) v).run σ = (.ok (), σ.withMacros c [(name, v)]) := by
  obtain ⟨entries, he⟩ := hf.hierarchy.registry c hc
  have hr : σ.registered c = entries := by rw [State.registered, he]
  rw [Registry.register_run he, State.withMacros, hr]
  rfl

/-- A member that is registered leaves it to the meanings before which of the others are. -/
theorem wanted_withMacros (hf : Family σ classes) (hc : c ∈ classes) {member : Value}
    {rest : List (String × Value)} (hname : name ∉ rest.map (·.1)) (replace : Bool) :
    (σ.withMacros c [(name, member)]).wanted c replace rest = σ.wanted c replace rest := by
  refine List.filter_congr fun e he => ?_
  have hne : name ≠ e.1 := fun h =>
    hname (List.mem_map.mpr ⟨e, List.mem_of_mem_filter he, h.symm⟩)
  have hnone : Table.get? [(name, member)] e.1 = none := by
    rw [Table.get?_cons, if_neg (by simpa using hne)]
    rfl
  have hone : ([(name, member)].map (·.1)).Nodup := List.nodup_cons.mpr ⟨List.not_mem_nil, .nil⟩
  rw [State.meaning?_withMacros_of_get?_eq_none hf.hierarchy hc hone hnone]

/-- Members with distinct names are registered if they are wanted before the first of them is. -/
theorem adoptThrough_run (hf : Family σ classes) (hc : c ∈ classes) (replace : Bool) (i : Nat)
    (hn : (members.map (·.1)).Nodup) :
    (Registry.adoptThrough (Reach.within w (i + 3)) c replace members).run σ =
      (.ok (), σ.withMacros c (σ.wanted c replace members)) := by
  induction members generalizing σ with
  | nil =>
    have hnone : σ.withMacros c [] = σ := State.withMacros_of_held hf.hierarchy hc (by simp)
    rw [State.wanted, Members.offered, List.filter_nil, List.filter_nil, hnone]
    rfl
  | cons e rest ih =>
    obtain ⟨name, member⟩ := e
    obtain ⟨hname, hn⟩ := List.nodup_cons.mp hn
    rw [hf.hierarchy.toKindred.adoptThrough_cons hc]
    cases hp : Text.beginsWith name "_" with
    | true =>
      rw [if_pos rfl, State.wanted_cons_of_private hp]
      exact ih hf hn
    | false =>
      have hrest := ih (hf.withMacros hc [(name, member)]) hn
      rw [hf.wanted_withMacros hc hname, State.withMacros_withMacros hf.hierarchy hc] at hrest
      rw [if_neg Bool.false_ne_true, State.wanted_cons hp, hf.find?_eq hc, hf.register_run hc]
      cases replace with
      | true => exact hrest
      | false =>
        cases σ.meaning? c name with
        | none => exact hrest
        | some held => exact ih hf hn

/-- What adopting a source does: its routines are told, then those are registered that are wanted. -/
theorem adopt_run (hf : Family σ classes) (hc : c ∈ classes) (source : Value)
    (replace : Option Bool) :
    ((RegistryCall.adopt c source replace).run w).run σ =
      match RegistryCall.routines w σ source with
      | .ok members =>
        (.ok .null, σ.withMacros c (σ.wanted c (replace.getD true) members))
      | .error failure => (.error failure, σ) := by
  have hread := (hf.hierarchy.inherits c hc).read (w := w) (n := .adopt) (by decide) (985 + 4)
  have ha := Native.invoke_adopt hread source replace
  have hm : RegistryCall.routines w σ source =
      Members.routines (Reach.within w (985 + 3)) σ source := rfl
  refine Eq.trans ha ?_
  rw [hm]
  cases hs : Members.routines (Reach.within w (985 + 3)) σ source with
  | error failure => rfl
  | ok members =>
    exact Run.bind_of_ok (hf.adoptThrough_run hc (replace.getD true) 985 (Members.nodup_routines hs))

/-- What is registered of the members means itself afterwards. -/
theorem find?_of_wanted (hf : Family σ classes) (hc : c ∈ classes) {replace : Bool}
    (hn : (members.map (·.1)).Nodup) {e : String × Value} (he : e ∈ σ.wanted c replace members) :
    Registry.find? (σ.withMacros c (σ.wanted c replace members)) c (.str e.1) = .ok (some e.2) := by
  rw [(hf.withMacros hc _).find?_eq hc, hf.meaning?_withMacros_self hc (State.nodup_wanted hn),
    Table.get?_of_mem (State.nodup_wanted hn) he]
  rfl

/-- A name that none of the registered members has means what it meant. -/
theorem find?_of_not_wanted (hf : Family σ classes) (hc : c ∈ classes) {replace : Bool}
    (hn : (members.map (·.1)).Nodup) (hname : ∀ e ∈ σ.wanted c replace members, e.1 ≠ name) :
    Registry.find? (σ.withMacros c (σ.wanted c replace members)) c (.str name) =
      Registry.find? σ c (.str name) := by
  have hnone : Table.get? (σ.wanted c replace members) name = none := by
    refine Table.get?_eq_none_iff.mpr fun hm => ?_
    obtain ⟨e, he, hne⟩ := List.mem_map.mp hm
    exact hname e he hne
  rw [(hf.withMacros hc _).find?_eq hc, hf.find?_eq hc,
    State.meaning?_withMacros_of_get?_eq_none hf.hierarchy hc (State.nodup_wanted hn) hnone]

/-- Macros for all under names that mean nothing on the root class take nothing from any class. -/
theorem find?_withMacros_root (hf : Family σ classes) {macros : List (String × Value)}
    (hn : (macros.map (·.1)).Nodup) (hfree : ∀ e ∈ macros, σ.meaning? rootClass e.1 = none)
    {v : Value} (h : Registry.find? σ d (.str name) = .ok (some v)) :
    Registry.find? (σ.withMacros rootClass macros) d (.str name) = .ok (some v) := by
  have hroot := hf.hierarchy.root
  obtain ⟨found, hfound, h⟩ := bind_eq_ok.mp h
  have hfirst : Registry.firstHolding (σ.withMacros rootClass macros) (.str name)
      ((σ.withMacros rootClass macros).lineage d) = .ok found := by
    rw [State.lineage_withMacros]
    exact (Registry.firstHolding_putInClass (.inl rfl)).trans hfound
  refine bind_eq_ok.mpr ⟨found, hfirst, ?_⟩
  cases found with
  | some other => exact h
  | none =>
    have hshared : ∀ {τ : State}, Family τ classes →
        Registry.shared? τ (.str name) = .ok (τ.meaning? rootClass name) := by
      intro τ hτ
      obtain ⟨entries, he⟩ := hτ.hierarchy.registry rootClass hτ.hierarchy.root
      rw [hτ.meaning?_root]
      exact Registry.shared?_eq he
    have hmeans : σ.meaning? rootClass name = some v := Except.ok.inj ((hshared hf).symm.trans h)
    have hnone : Table.get? macros name = none := by
      refine Table.get?_eq_none_iff.mpr fun hm => ?_
      obtain ⟨e, he, rfl⟩ := List.mem_map.mp hm
      rw [hfree e he] at hmeans
      cases hmeans
    refine (hshared (hf.withMacros hroot macros)).trans ?_
    rw [State.meaning?_withMacros_of_get?_eq_none hf.hierarchy hroot hn hnone, hmeans]

/-- Adopting the same members once more changes nothing: what would be registered is there. -/
theorem withMacros_wanted_again (hf : Family σ classes) (hc : c ∈ classes) (replace : Bool)
    (hn : (members.map (·.1)).Nodup) :
    let τ := σ.withMacros c (σ.wanted c replace members)
    τ.withMacros c (τ.wanted c replace members) = τ := by
  intro τ
  have hτ : Family τ classes := hf.withMacros hc _
  refine State.withMacros_of_held hτ.hierarchy hc fun e he => ?_
  obtain ⟨hoffered, hw⟩ := State.mem_wanted.mp he
  have hmem : e ∈ σ.wanted c replace members := by
    refine State.mem_wanted.mpr ⟨hoffered, hw.imp_right fun hnone => ?_⟩
    rw [hf.meaning?_withMacros_self hc (State.nodup_wanted hn)] at hnone
    exact (Option.or_eq_none_iff.mp hnone).2
  rw [State.get?_registered_withMacros hf.hierarchy hc (State.nodup_wanted hn), if_pos rfl,
    Table.get?_of_mem (State.nodup_wanted hn) hmem]
  rfl

end Family

/-- Adopting a source registers its public routines on the class, under the names of all of them or of
those alone that mean nothing on the class. All other names mean there what they meant, and on a class
that does not descend from the adopting one all names do. Nothing is registered if the routines cannot be
told, and nothing changes if they are adopted once more, told as before. -/
theorem meanings_after_adoption (hf : Family σ classes) (hc : c ∈ classes) (source : Value)
    (replace : Option Bool) :
    let call := RegistryCall.adopt c source replace
    let τ := ((call.run w).run σ).2
    match RegistryCall.routines w σ source with
    | .error failure => (call.run w).run σ = (.error failure, σ)
    | .ok members =>
      let offered := members.filter fun e => !Text.beginsWith e.1 "_"
      (call.run w).run σ = (.ok .null, τ) ∧
      (∀ e ∈ offered, replace ≠ some false ∨ Registry.find? σ c (.str e.1) = .ok none →
        Registry.find? τ c (.str e.1) = .ok (some e.2)) ∧
      (∀ name, name ∉ offered.map (·.1) ∨
          replace = some false ∧ Registry.find? σ c (.str name) ≠ .ok none →
        Registry.find? τ c (.str name) = Registry.find? σ c (.str name)) ∧
      (∀ d, c ∉ σ.lineage d → (∀ name, τ.inClass d name = σ.inClass d name) ∧
        (σ.isMacroable d = true → ∀ key, Registry.find? τ d key = Registry.find? σ d key)) ∧
      (c = rootClass → replace = some false → ∀ d name v,
        Registry.find? σ d (.str name) = .ok (some v) →
          Registry.find? τ d (.str name) = .ok (some v)) ∧
      (RegistryCall.routines w τ source = .ok members → (call.run w).run τ = (.ok .null, τ)) := by
  intro call τ
  have hrun := hf.adopt_run (w := w) hc source replace
  cases hm : RegistryCall.routines w σ source with
  | error failure =>
    rw [hm] at hrun
    exact hrun
  | ok members =>
    rw [hm] at hrun
    have hn := Members.nodup_routines hm
    have hτ : τ = σ.withMacros c (σ.wanted c (replace.getD true) members) := congrArg Prod.snd hrun
    have hreplace : replace.getD true = true ↔ replace ≠ some false := by
      rcases replace with _ | _ | _ <;> simp
    refine ⟨hrun.trans (by rw [hτ]), fun e he hw => ?_, fun name hname => ?_, fun d hd => ?_,
      fun hroot hkeep d name v hv => ?_, fun hagain => ?_⟩
    · rw [hτ]
      refine hf.find?_of_wanted hc hn (State.mem_wanted.mpr ⟨he, hw.imp hreplace.mpr fun hnone => ?_⟩)
      rw [hf.find?_eq hc] at hnone
      exact Except.ok.inj hnone
    · rw [hτ]
      refine hf.find?_of_not_wanted hc hn fun e he => ?_
      rintro rfl
      obtain ⟨hoffered, hw⟩ := State.mem_wanted.mp he
      rcases hname with hname | ⟨hkeep, hsome⟩
      · exact hname (List.mem_map_of_mem hoffered)
      · rw [hreplace] at hw
        rw [hf.find?_eq hc, hw.resolve_left (not_not_intro hkeep)] at hsome
        exact hsome rfl
    · have hne : d ≠ c := by
        rintro rfl
        obtain ⟨ancestors, hl⟩ := hf.first d hc
        exact hd (hl ▸ List.mem_cons_self)
      rw [hτ]
      refine ⟨fun name => State.inClass_putInClass_of_ne (.inl hne), fun hmacroable key => ?_⟩
      refine Registry.find?_putInClass ?_ hd
      rintro rfl
      exact hd (List.contains_iff_mem.mp hmacroable)
    · subst hroot
      rw [hτ]
      refine hf.find?_withMacros_root (State.nodup_wanted hn) (fun e he => ?_) hv
      refine (State.mem_wanted.mp he).2.resolve_left fun hw => ?_
      exact hreplace.mp hw hkeep
    · have hτfamily : Family τ classes := hτ ▸ hf.withMacros hc _
      have hrunAgain := hτfamily.adopt_run (w := w) hc source replace
      rw [hagain] at hrunAgain
      refine hrunAgain.trans ?_
      rw [hτ]
      dsimp only
      rw [hf.withMacros_wanted_again hc (replace.getD true) hn]

namespace Larder

def first : Value := .function "first" "first" [] .null (.returns .null)

/-- An object lists its own attribute and a macro of its class. -/
def listing : Value :=
  .function "listing" "listing" [{ name := "self" }] .null
    (.returns (.list [.str "first", .str "head"]))

/-- A class registers nothing through this in place of the function of the root class. -/
def ignore : Value :=
  .function "ignore" "ignore" [{ name := "name" }, { name := "macro" }] .null (.returns .null)

/-- Two macroable classes with an object of the second, and a third one that registers nothing. -/
def site : Site :=
  (Site.empty default)
    |>.addClass "Shelf" "Shelf" "Shelf" "app" [rootClass] .null []
    |>.addClass "Basket" "Basket" "Basket" "app" [rootClass] .null [("__dir__", listing)]
    |>.addObject "basket" (.defined "Basket") [("first", first)]
    |>.addClass "Sealed" "Sealed" "Sealed" "app" [rootClass] .null
      [("macro", .staticMethod (some "kept") ignore)]

def family : List ClassId := [rootClass, .defined "Shelf", .defined "Basket"]

/-- The state in which a macro of the second class leads on to one of the first. -/
def state : State :=
  site.state.withMacros (.defined "Basket") [("head", .tuple [.cls (.defined "Shelf"), .str "first"])]

/-- The state in which the first class has adopted the object. -/
def adopted : State := state.withMacros (.defined "Shelf") [("first", first)]

def call (replace : Option Bool) : RegistryCall :=
  .adopt (.defined "Shelf") (.objectRef "basket") replace

theorem family_state : Family state family := by decide

theorem sortedNames_listed : Members.sortedNames ["first", "head"] = ["first", "head"] := by
  rw [Members.sortedNames, List.mergeSort_of_pairwise (by decide)]
  decide

theorem routines_state :
    RegistryCall.routines site.world state (.objectRef "basket") = .ok [("first", first)] :=
  bind_eq_ok.mpr ⟨_, congrArg Except.ok sortedNames_listed, by with_unfolding_all rfl⟩

theorem routines_adopted : RegistryCall.routines site.world adopted (.objectRef "basket") =
    .ok [("first", first), ("head", first)] :=
  bind_eq_ok.mpr ⟨_, congrArg Except.ok sortedNames_listed, by with_unfolding_all rfl⟩

/-- The third class still has the function that adopts. -/
theorem read_adopt : (Reach.of site.world).read state (.cls (.defined "Sealed")) Native.adopt.name =
    .ok (.bound none (.native .adopt) (.cls (.defined "Sealed"))) := rfl

theorem adoptThrough_sealed :
    (Registry.adoptThrough (Reach.within site.world 988) (.defined "Sealed") true
      [("first", first)]).run state = (.ok (), state) := by with_unfolding_all rfl

end Larder

open Larder in
theorem larder_meanings_after_adoption :
    ∃ τ, ((call (some false)).run site.world).run state = (.ok .null, τ) ∧
      Registry.find? τ (.defined "Shelf") (.str "first") = .ok (some first) ∧
      ∀ name, name ≠ "first" →
        Registry.find? τ (.defined "Shelf") (.str name) =
          Registry.find? state (.defined "Shelf") (.str name) := by
  have h := meanings_after_adoption (w := site.world) family_state
    (by decide : ClassId.defined "Shelf" ∈ family) (.objectRef "basket") (some false)
  dsimp only at h
  rw [routines_state] at h
  obtain ⟨hrun, hfound, hkept, -⟩ := h
  refine ⟨_, hrun, hfound ("first", first) List.mem_cons_self (.inr ?_), fun name hname => ?_⟩
  · with_unfolding_all rfl
  · exact hkept name (.inl fun hm => hname (List.mem_singleton.mp hm))

open Larder in
/-- The first class registers one routine of the object when it adopts it, and one more when it adopts it
once more: by then the macro of the second class leads on to the first routine. The third class, which puts
a function of its own in the place of the one that registers, registers nothing. -/
theorem larder_adopts_more_later :
    Family state family ∧
      (∀ replace, ((call replace).run site.world).run state = (.ok .null, adopted) ∧
        Registry.find? adopted (.defined "Shelf") (.str "head") = .ok none ∧
        Registry.find? (((call replace).run site.world).run adopted).2 (.defined "Shelf")
          (.str "head") = .ok (some first)) ∧
      ((RegistryCall.adopt (.defined "Sealed") (.objectRef "basket") none).run site.world).run state =
        (.ok .null, state) ∧
      Registry.find? state (.defined "Sealed") (.str "first") = .ok none := by
  have hc : ClassId.defined "Shelf" ∈ family := by decide
  refine ⟨family_state, fun replace => ⟨?_, by with_unfolding_all rfl, ?_⟩, ?_,
    by with_unfolding_all rfl⟩
  · have hrun := family_state.adopt_run (w := site.world) hc (.objectRef "basket") replace
    rw [routines_state] at hrun
    refine hrun.trans ?_
    rcases replace with _ | _ | _ <;> with_unfolding_all rfl
  · have hfamily : Family adopted family := family_state.withMacros hc _
    have hrun := hfamily.adopt_run (w := site.world) hc (.objectRef "basket") replace
    rw [routines_adopted] at hrun
    refine (congrArg (fun result => Registry.find? result.2 _ _) hrun).trans ?_
    refine hfamily.find?_of_wanted hc (by decide) (e := ("head", first)) ?_
    rw [State.mem_wanted]
    exact ⟨List.mem_cons_of_mem _ List.mem_cons_self, .inr (by with_unfolding_all rfl)⟩
  · have hroutines : Members.routines (Reach.within site.world 988) state (.objectRef "basket") =
        .ok [("first", first)] := routines_state
    have hrun := Native.invoke_adopt read_adopt (.objectRef "basket") none
    rw [hroutines] at hrun
    exact hrun.trans (Run.bind_of_ok adoptThrough_sealed)

end MacroStubs
