import MacroStubs.Proofs.Collection.Firm
import MacroStubs.Proofs.Import.Failing
import MacroStubs.Proofs.Resolution.Loading

/-! # Dotted identifiers

An identifier with dots alone names what the same one names with a colon behind its module, although the
modules that its longer beginnings may mean are tried first. Where nothing is left to import it names what
the longest split does that leads to something.
-/

namespace MacroStubs

variable {w : World} {r : Reach} {σ σ' τ ρ : State}

theorem State.AgreesWith.read_eq (h : σ.AgreesWith τ) : (Reach.of w).read τ = (Reach.of w).read σ := by
  obtain ⟨host, rfl⟩ := h
  exact Reach.read_withHost σ host

/-- Importing a module fails with what can be handled, and does no more than what leads to a state. -/
def Import.IsVain (w : World) (name : String) (τ σ' : State) : Prop :=
  ∃ f ρ, (importModule w name).run τ = (.error f, ρ) ∧ f.isHandled = true ∧ σ'.AgreesWith ρ

namespace Resolution

variable {identifier module rest : String} {path : List String} {e : String × List String}
variable {es : List (String × List String)} {v : Value}

theorem trim_colon (h : Text.trim identifier = module ++ "." ++ rest) :
    Text.trim (module ++ ":" ++ rest) = module ++ ":" ++ rest := by
  have hdot : Text.trim (module ++ "." ++ rest) = module ++ "." ++ rest := by
    rw [← h, Text.trim_trim]
  have hblank : Text.isBlank '.' = false ∧ Text.isBlank ':' = false := by decide
  exact (Text.trim_append_eq_iff hblank.2).mpr ((Text.trim_append_eq_iff hblank.1).mp hdot)

/-- What a split leads to. An empty name cannot be imported. -/
theorem load_importModule (module : String) (path : List String) (σ : State) :
    ∃ τ, ((importModule w module).run σ).2.AgreesWith τ ∧ (load r (importModule w) module path).run σ =
      (settled (loaded r (importModule w) module path σ), τ) := by
  by_cases hm : module = ""
  · subst hm
    have hempty : (importModule w "").run σ = (.error .emptyModuleName, σ) := by
      rw [importModule, Import.within_eq]
      rfl
    rw [loaded, hempty]
    exact ⟨σ, .refl σ, rfl⟩
  · exact load_run hm path σ

theorem resolve_colon_run (hm : ':' ∉ module.toList)
    (ht : Text.trim (module ++ ":" ++ rest) = module ++ ":" ++ rest) (σ : State) :
    ∃ τ, ((importModule w module).run σ).2.AgreesWith τ ∧
      (resolve r (importModule w) (module ++ ":" ++ rest)).run σ =
        (classed (settled (loaded r (importModule w) module (Text.pieces '.' rest) σ)), τ) := by
  have hne : Text.trim (module ++ ":" ++ rest) ≠ "" := by
    rw [ht]
    simp
  obtain ⟨τ, hτ, hrun⟩ := @resolve_run r (importModule w) _ hne σ
  obtain ⟨τ', hτ', hload⟩ := @load_importModule w r module (Text.pieces '.' rest) σ
  rw [ht, candidate?_colon hm, hload] at hτ hrun
  exact ⟨τ, hτ'.trans hτ, hrun⟩

/-- Where an identifier with a colon names something, its module is imported and its path read. -/
theorem loaded_of_colon (hm : ':' ∉ module.toList)
    (ht : Text.trim (module ++ ":" ++ rest) = module ++ ":" ++ rest)
    (h : (resolve r (importModule w) (module ++ ":" ++ rest)).run σ = (.ok (some v), σ')) :
    loaded r (importModule w) module (Text.pieces '.' rest) σ = .ok v ∧
      ((importModule w module).run σ).2.AgreesWith σ' := by
  obtain ⟨τ, hτ, hresolve⟩ := @resolve_colon_run w r module rest hm ht σ
  rw [hresolve] at h
  obtain ⟨hclass, rfl⟩ := Prod.mk.inj h
  exact ⟨some_eq_classed hclass.symm, hτ⟩

theorem resolve_dotted_run {importModule : String → Run Unit} (h : ':' ∉ (Text.trim identifier).toList)
    (σ : State) :
    ∃ τ,
      ((loadFirst r importModule (splits (Text.pieces '.' (Text.trim identifier)))).run σ).2.AgreesWith τ ∧
      (resolve r importModule identifier).run σ =
        (classed
          ((loadFirst r importModule (splits (Text.pieces '.' (Text.trim identifier)))).run σ).1, τ) := by
  by_cases hne : Text.trim identifier = ""
  · rw [resolve_blank hne, hne]
    exact ⟨σ, .refl σ, rfl⟩
  · rw [← candidate?_dotted h]
    exact resolve_run hne σ

/-- Splits whose modules cannot be imported lead to nothing. -/
theorem loadFirst_of_isVain
    (h : ∀ e ∈ es, ∀ τ, τ = σ ∨ σ'.AgreesWith τ → Import.IsVain w e.1 τ σ') (hτ : τ = σ ∨ σ'.AgreesWith τ) :
    ∃ τ', (loadFirst r (importModule w) es).run τ = (.ok none, τ') ∧ (τ' = σ ∨ σ'.AgreesWith τ') := by
  induction es generalizing τ with
  | nil => exact ⟨τ, rfl, hτ⟩
  | cons e es ih =>
    obtain ⟨he, hes⟩ := List.forall_mem_cons.mp h
    obtain ⟨f, ρ, himport, hf, hρ⟩ := he τ hτ
    obtain ⟨τ', hτ', hload⟩ := @load_importModule w r e.1 e.2 τ
    rw [loaded, himport] at hload
    rw [himport] at hτ'
    have hnone : settled (.error f) = .ok none := by rw [settled, if_pos hf]
    rw [hnone] at hload
    rw [loadFirst_of_vain hload fun hd => hd.1 rfl]
    exact ih hes (.inr (hρ.trans hτ'))

/-- The splits of a dotted identifier around the dots behind its module, the last one first. -/
def longer (module rest : String) : List (String × List String) :=
  (List.range ((Text.pieces '.' rest).length - 1)).reverse.map fun i =>
    (module ++ "." ++ ".".intercalate ((Text.pieces '.' rest).take (i + 1)),
      (Text.pieces '.' rest).drop (i + 1))

theorem splits_dotted (module rest : String) :
    ∃ shorter, splits (Text.pieces '.' (module ++ "." ++ rest)) =
      longer module rest ++ (module, Text.pieces '.' rest) :: shorter := by
  have hm := Text.pieces_ne_nil '.' module
  have hr := Text.pieces_ne_nil '.' rest
  have htake (i : Nat) : (Text.pieces '.' rest).take (i + 1) ≠ [] := by
    rw [← List.length_pos_iff] at hr ⊢
    rw [List.length_take]
    omega
  refine ⟨(splits (Text.pieces '.' module)).map fun e => (e.1, e.2 ++ Text.pieces '.' rest), ?_⟩
  rw [Text.pieces_append, splits_append hm hr, Text.dotted_pieces, longer]
  congr 1
  refine List.map_congr_left fun i _ => ?_
  rw [String.intercalate_append_of_ne_nil hm (htake i), Text.dotted_pieces]

/-- A path that can be read once its module has been imported can be read again. -/
theorem load_again (h : loaded (Reach.of w) (importModule w) module path σ = .ok v)
    (hσ' : ((importModule w module).run σ).2.AgreesWith σ') (hτ : τ = σ ∨ σ'.AgreesWith τ) :
    ∃ τ', σ'.AgreesWith τ' ∧
      (load (Reach.of w) (importModule w) module path).run τ = (.ok (some v), τ') := by
  obtain ⟨ρ, himport, hread⟩ := loaded_eq_ok.mp h
  rw [himport] at hσ'
  obtain ⟨ρ', himport', hρ'⟩ := exists_importModule himport hσ' hτ
  have hloaded : loaded (Reach.of w) (importModule w) module path τ = .ok v := by
    refine loaded_eq_ok.mpr ⟨ρ', himport', ?_⟩
    rwa [(hσ'.trans hρ').read_eq]
  obtain ⟨τ', hτ', hload⟩ := @load_importModule w (Reach.of w) module path τ
  rw [hloaded] at hload
  rw [himport'] at hτ'
  exact ⟨τ', hρ'.trans hτ', hload⟩

/-- A class that an identifier with a colon names is named by the same one with a dot, if the modules that
its longer beginnings may mean cannot be imported. -/
theorem resolve_dotted_of_colon {c : ClassId} (ht : Text.trim identifier = module ++ "." ++ rest)
    (hcolon : ':' ∉ (Text.trim identifier).toList)
    (h : (resolve (Reach.of w) (importModule w) (module ++ ":" ++ rest)).run σ =
      (.ok (some (.cls c)), σ'))
    (hv : ∀ j, 0 < j → j < (Text.pieces '.' rest).length → ∀ τ, τ = σ ∨ σ'.AgreesWith τ →
      Import.IsVain w (module ++ "." ++ ".".intercalate ((Text.pieces '.' rest).take j)) τ σ') :
    ∃ τ, (resolve (Reach.of w) (importModule w) identifier).run σ = (.ok (some (.cls c)), τ) ∧
      σ'.AgreesWith τ := by
  have hm : ':' ∉ module.toList := by
    rw [ht] at hcolon
    simp_all
  obtain ⟨hloaded, hσ'⟩ := loaded_of_colon hm (trim_colon ht) h
  have hlonger : ∀ e ∈ longer module rest, ∀ τ, τ = σ ∨ σ'.AgreesWith τ → Import.IsVain w e.1 τ σ' := by
    intro e he
    obtain ⟨i, hi, rfl⟩ := List.mem_map.mp he
    rw [List.mem_reverse, List.mem_range] at hi
    exact hv (i + 1) (by omega) (by omega)
  obtain ⟨τ₂, hnone, hτ₂⟩ := loadFirst_of_isVain (r := Reach.of w) hlonger (.inl rfl)
  obtain ⟨τ₃, hτ₃, hload⟩ := load_again hloaded hσ' hτ₂
  have hdecisive : IsDecisive (.ok (some (.cls c))) := ⟨nofun, nofun⟩
  obtain ⟨shorter, hsplits⟩ := splits_dotted module rest
  obtain ⟨τ, hτ, hfinal⟩ := @resolve_dotted_run (Reach.of w) identifier (importModule w) hcolon σ
  rw [ht, hsplits, loadFirst_append hnone, loadFirst_of_decisive hload hdecisive] at hτ hfinal
  exact ⟨τ, hfinal, hτ₃.trans hτ⟩

/-- Whether a split decides what an identifier names: it leads to something other than nothing, or an exit
gets out of it. -/
def decides (r : Reach) (importModule : String → Run Unit) (σ : State) (e : String × List String) : Bool :=
  match loaded r importModule e.1 e.2 σ with
  | .ok .null => false
  | .ok _ => true
  | .error f => !f.isHandled

theorem decides_iff {importModule : String → Run Unit} : decides r importModule σ e = true ↔
    IsDecisive (settled (loaded r importModule e.1 e.2 σ)) := by
  rw [decides, IsDecisive]
  rcases loaded r importModule e.1 e.2 σ with f | v
  · cases hf : f.isHandled <;> simp [settled, hf]
  · cases v <;> simp [settled]

/-- Where nothing is left to import, the first split that decides is taken. -/
theorem loadFirst_of_isFirm
    (h : ∀ e ∈ es, (load r (importModule w) e.1 e.2).IsFirm σ) (host : Host) :
    ((loadFirst r (importModule w) es).run { σ with host }).1 =
      ((es.find? (decides r (importModule w) σ)).map fun e =>
        settled (loaded r (importModule w) e.1 e.2 σ)).getD (.ok none) := by
  induction es generalizing host with
  | nil => rfl
  | cons e es ih =>
    obtain ⟨he, hes⟩ := List.forall_mem_cons.mp h
    obtain ⟨_, -, hresult⟩ := @load_importModule w r e.1 e.2 σ
    have hsame := he.same host
    obtain ⟨host', hstate⟩ := he.quiet host
    rw [hresult] at hsame
    generalize hload : (load r (importModule w) e.1 e.2).run { σ with host } = outcome at hsame hstate
    obtain ⟨result, τ⟩ := outcome
    obtain rfl : result = settled (loaded r (importModule w) e.1 e.2 σ) := hsame
    obtain rfl : τ = { σ with host := host' } := hstate
    rw [List.find?_cons]
    cases hd : decides r (importModule w) σ e with
    | true => rw [loadFirst_of_decisive hload (decides_iff.mp hd)]; rfl
    | false =>
      have hvain : ¬ IsDecisive (settled (loaded r (importModule w) e.1 e.2 σ)) := fun h =>
        Bool.false_ne_true (hd.symm.trans (decides_iff.mpr h))
      rw [loadFirst_of_vain hload hvain]
      exact ih hes host'

/-- Over modules that are imported or that no world has, an identifier with dots alone names what it names
with a colon in the place of the dot where the longest split that decides has it, and nothing if none does. -/
theorem resolve_dotted_of_settled (hcolon : ':' ∉ (Text.trim identifier).toList)
    (h : ∀ e ∈ splits (Text.pieces '.' (Text.trim identifier)), Import.IsSettled w σ e.1) :
    σ.AgreesWith ((resolve (Reach.of w) (importModule w) identifier).run σ).2 ∧
    (∀ e, (splits (Text.pieces '.' (Text.trim identifier))).find?
        (decides (Reach.of w) (importModule w) σ) = some e →
      ((resolve (Reach.of w) (importModule w) identifier).run σ).1 =
        ((resolve (Reach.of w) (importModule w) (e.1 ++ ":" ++ ".".intercalate e.2)).run σ).1) ∧
    ((splits (Text.pieces '.' (Text.trim identifier))).find?
        (decides (Reach.of w) (importModule w) σ) = none →
      ((resolve (Reach.of w) (importModule w) identifier).run σ).1 = .ok none) := by
  have hfirm : ∀ e ∈ splits (Text.pieces '.' (Text.trim identifier)),
      (load (Reach.of w) (importModule w) e.1 e.2).IsFirm σ := by
    intro e he
    rw [← Reach.hostless_of]
    exact isFirm_load (Import.isFirm_within (h e he) _) _
  have hresult : ((loadFirst (Reach.of w) (importModule w)
      (splits (Text.pieces '.' (Text.trim identifier)))).run σ).1 = _ := loadFirst_of_isFirm hfirm σ.host
  obtain ⟨τ, hτ, hrun⟩ := @resolve_dotted_run (Reach.of w) identifier (importModule w) hcolon σ
  have hquiet : (resolve (Reach.of w) (importModule w) identifier).IsQuiet σ := by
    refine isQuiet_resolve fun m hm => ?_
    rw [modulesOf, dropWhile_of_dotted hcolon, String.ofList_toList] at hm
    obtain ⟨e, he, rfl⟩ := List.mem_map.mp hm
    exact (Import.isFirm_importModule (h e he)).quiet
  refine ⟨hquiet.agreesWith, fun e he => ?_, fun hnone => ?_⟩
  · rw [he, Option.map_some, Option.getD_some] at hresult
    obtain ⟨module, path⟩ := e
    obtain ⟨rest, rfl, hs⟩ := mem_splits_pieces.mp (List.mem_of_find?_eq_some he)
    have hm : ':' ∉ module.toList := by
      rw [hs] at hcolon
      simp_all
    obtain ⟨_, -, hresolve⟩ := @resolve_colon_run w (Reach.of w) module rest hm (trim_colon hs) σ
    rw [hrun, hresult, Text.dotted_pieces, hresolve]
  · rw [hnone, Option.map_none, Option.getD_none] at hresult
    rw [hrun, hresult]
    rfl

/-- The import of a missing module below one that can be imported does what the import of that one does, and
fails. -/
theorem fails_of_isMissing {j : Nat} (himport : (importModule w module).run σ = (.ok (), ρ))
    (hρ : ρ.AgreesWith σ') (hj : 0 < j) (hτ : τ = σ ∨ σ'.AgreesWith τ)
    (hm : ∀ i, 0 < i → i ≤ j →
      Import.IsMissing w σ' (module ++ "." ++ ".".intercalate ((Text.pieces '.' rest).take i))) :
    ∃ part ρ', (importModule w (module ++ "." ++ ".".intercalate ((Text.pieces '.' rest).take j))).run τ =
      (.error (Import.fault (Reach.of w) ρ' part (Text.pieces '.' module).reverse), ρ') ∧
        σ'.AgreesWith ρ' := by
  obtain ⟨ρ', himport', hρ'⟩ := exists_importModule himport hρ hτ
  have hne : (Text.pieces '.' rest).take j ≠ [] := by
    have hlength := List.length_pos_iff.mpr (Text.pieces_ne_nil '.' rest)
    rw [← List.length_pos_iff, List.length_take]
    omega
  obtain ⟨part, hrun⟩ := Import.importModule_of_isMissing himport' hne
    (fun name hname => Text.not_mem_of_mem_pieces (List.mem_of_mem_take hname))
    fun first hfirst hinitial => by
      have htake : first = (Text.pieces '.' rest).take first.length :=
        List.prefix_iff_eq_take.mp (hinitial.trans (List.take_prefix _ _))
      have hlength : first.length ≤ j := hinitial.length_le.trans (List.length_take_le _ _)
      obtain ⟨hnew, hunknown⟩ := hm first.length (List.length_pos_iff.mpr hfirst) hlength
      rw [htake]
      exact ⟨fun hholds => hnew (hholds.agreesWith hρ'.symm), hunknown⟩
  exact ⟨part, ρ', hrun, hρ'⟩

/-- It is vain unless an exit gets out of the search. -/
theorem isVain_of_isMissing {j : Nat} (himport : (importModule w module).run σ = (.ok (), ρ))
    (hρ : ρ.AgreesWith σ') (hj : 0 < j) (hτ : τ = σ ∨ σ'.AgreesWith τ)
    (hm : ∀ i, 0 < i → i ≤ j →
      Import.IsMissing w σ' (module ++ "." ++ ".".intercalate ((Text.pieces '.' rest).take i)))
    (hpath : ∀ f, (Reach.of w).find? σ' (.moduleRef module) Import.pathField = .error f →
      f.isHandled = true) :
    Import.IsVain w (module ++ "." ++ ".".intercalate ((Text.pieces '.' rest).take j)) τ σ' := by
  obtain ⟨part, ρ', hrun, hρ'⟩ := fails_of_isMissing himport hρ hj hτ hm
  refine ⟨_, ρ', hrun, Import.isHandled_fault (fun f hf => hpath f ?_) part, hρ'⟩
  rwa [Import.joined_pieces, Reach.find?, hρ'.read_eq, ← Reach.find?] at hf

end Resolution

/-- A class that an identifier with a colon names in a state is named by the one with a dot instead, which
leaves the same imports, if to import any longer beginning of it fails with what can be handled and does no
more than the import of the module. Over modules that are imported or that no world has, such an identifier
names what it names with a colon at the longest split that leads to something, or that an exit gets out of;
it names nothing if there is none. -/
theorem resolve_of_dotted (w : World) (σ : State) :
    (∀ identifier module rest c σ', Text.trim identifier = module ++ "." ++ rest →
      ':' ∉ (Text.trim identifier).toList →
      (Resolution.resolve (Reach.of w) (importModule w) (module ++ ":" ++ rest)).run σ =
        (.ok (some (.cls c)), σ') →
      (∀ j, 0 < j → j < (Text.pieces '.' rest).length → ∀ τ, τ = σ ∨ σ'.AgreesWith τ →
        Import.IsVain w (module ++ "." ++ ".".intercalate ((Text.pieces '.' rest).take j)) τ σ') →
      ∃ τ, (Resolution.resolve (Reach.of w) (importModule w) identifier).run σ =
        (.ok (some (.cls c)), τ) ∧ σ'.AgreesWith τ) ∧
    ∀ identifier, ':' ∉ (Text.trim identifier).toList →
      (∀ e ∈ Resolution.splits (Text.pieces '.' (Text.trim identifier)), Import.IsSettled w σ e.1) →
      σ.AgreesWith ((Resolution.resolve (Reach.of w) (importModule w) identifier).run σ).2 ∧
      (∀ e, (Resolution.splits (Text.pieces '.' (Text.trim identifier))).find?
          (Resolution.decides (Reach.of w) (importModule w) σ) = some e →
        ((Resolution.resolve (Reach.of w) (importModule w) identifier).run σ).1 =
          ((Resolution.resolve (Reach.of w) (importModule w)
            (e.1 ++ ":" ++ ".".intercalate e.2)).run σ).1) ∧
      ((Resolution.splits (Text.pieces '.' (Text.trim identifier))).find?
          (Resolution.decides (Reach.of w) (importModule w) σ) = none →
        ((Resolution.resolve (Reach.of w) (importModule w) identifier).run σ).1 = .ok none) :=
  ⟨fun _ _ _ _ _ ht hcolon h hv => Resolution.resolve_dotted_of_colon ht hcolon h hv,
    fun _ hcolon h => Resolution.resolve_dotted_of_settled hcolon h⟩

namespace Nest

/-- A class within another one, which a module has that tells no path of its own or ends the program when it
is asked for it. -/
def site (refused : List (String × Thrown)) : Site :=
  (((Site.empty default).addClass "Inner" "Inner" "Outer.Inner" "app" [] .null []).addClass
    "Outer" "Outer" "Outer" "app" [] .null [("Inner", .cls (.defined "Inner"))]).addModules
      [{ name := "app", attributes := [("Outer", .cls (.defined "Outer"))], refused }]

def stop : Thrown := { kind := "SystemExit", message := "stop" }

/-- What an identifier names, and the state that this leaves. -/
def found (refused : List (String × Thrown)) (identifier : String) :
    Except Failure (Option Value) × State :=
  (Resolution.resolve (Reach.of (site refused).world) (importModule (site refused).world) identifier).run
    (site refused).state

/-- The class of the site that an identifier names. -/
def named : Except Failure (Option Value) → Option String
  | .ok (some (.cls (.defined id))) => some id
  | _ => none

theorem eq_of_named {result : Except Failure (Option Value)} {id : String} (h : named result = some id) :
    result = .ok (some (.cls (.defined id))) := by
  unfold named at h
  split at h
  · cases h; rfl
  · cases h

/-- A longer beginning of the identifier than its module. -/
def beginning (j : Nat) : String :=
  "app" ++ "." ++ ".".intercalate ((Text.pieces '.' "Outer.Inner").take j)

/-- With a colon the identifier names the inner class, and only its module is imported. -/
theorem found_colon {refused : List (String × Thrown)} (h : refused = [] ∨ refused = [("__path__", stop)]) :
    ∃ σ' ρ, found refused "app:Outer.Inner" = (.ok (some (.cls (.defined "Inner"))), σ') ∧
      (importModule (site refused).world "app").run (site refused).state = (.ok (), ρ) ∧ ρ.AgreesWith σ' ∧
      ∀ j, 0 < j → j ≤ 2 → Import.IsMissing (site refused).world σ' (beginning j) := by
  have hnamed : named (found refused "app:Outer.Inner").1 = some "Inner" := by
    rcases h with rfl | rfl <;> decide +kernel
  have hnew : ∀ j ∈ [1, 2],
      Import.isImported (found refused "app:Outer.Inner").2 (beginning j) = false ∧
        ((site refused).world.module? (beginning j)).isNone = true := by
    rcases h with rfl | rfl <;> decide +kernel
  have hcolon : found refused "app:Outer.Inner" =
      (.ok (some (.cls (.defined "Inner"))), (found refused "app:Outer.Inner").2) :=
    Prod.ext (eq_of_named hnamed) rfl
  have hm : ':' ∉ "app".toList := by decide
  have ht : Text.trim ("app" ++ ":" ++ "Outer.Inner") = "app" ++ ":" ++ "Outer.Inner" := by decide +kernel
  obtain ⟨hloaded, hσ'⟩ := Resolution.loaded_of_colon hm ht hcolon
  obtain ⟨ρ, himport, -⟩ := Resolution.loaded_eq_ok.mp hloaded
  rw [himport] at hσ'
  refine ⟨_, ρ, hcolon, himport, hσ', fun j hj hle => ?_⟩
  have hmem : j ∈ [1, 2] := List.mem_pair.mpr (by omega)
  exact ⟨Bool.eq_false_iff.mp (hnew j hmem).1, Option.isNone_iff_eq_none.mp (hnew j hmem).2⟩

end Nest

/-- A class within a class is named with a dot as it is with a colon. -/
theorem nest_resolved : ∃ σ' τ,
    Nest.found [] "app:Outer.Inner" = (.ok (some (.cls (.defined "Inner"))), σ') ∧
    Nest.found [] "app.Outer.Inner" = (.ok (some (.cls (.defined "Inner"))), τ) ∧ σ'.AgreesWith τ := by
  obtain ⟨σ', ρ, hcolon, himport, hσ', hmissing⟩ := Nest.found_colon (.inl rfl)
  have hlength : (Text.pieces '.' "Outer.Inner").length = 2 := by decide +kernel
  have htold : ((Reach.of (Nest.site []).world).find? (Nest.found [] "app:Outer.Inner").2 (.moduleRef "app")
      Import.pathField).isOk = true := by decide +kernel
  rw [hcolon] at htold
  obtain ⟨τ, hdotted, hτ⟩ := (resolve_of_dotted (Nest.site []).world (Nest.site []).state).1
    "app.Outer.Inner" "app" "Outer.Inner" (.defined "Inner") σ' (by decide +kernel) (by decide +kernel) hcolon
    fun j hj hlt τ hτ => Resolution.isVain_of_isMissing himport hσ' hj hτ
      (fun i hi hle => hmissing i hi (by omega)) fun f hf => by
        rw [hf] at htold
        cases htold
  exact ⟨σ', τ, hcolon, hdotted, hτ⟩

/-- Where the module ends the program when it is asked for its path, no longer beginning can be imported and
no import of one does more than that of the module, and yet the exit gets out. -/
theorem nest_stopped : ∃ σ',
    Nest.found [("__path__", Nest.stop)] "app:Outer.Inner" = (.ok (some (.cls (.defined "Inner"))), σ') ∧
    (∀ j, 0 < j → j ≤ 2 → ∀ τ, τ = (Nest.site [("__path__", Nest.stop)]).state ∨ σ'.AgreesWith τ →
      ∃ f ρ, (importModule (Nest.site [("__path__", Nest.stop)]).world (Nest.beginning j)).run τ =
        (.error f, ρ) ∧ σ'.AgreesWith ρ) ∧
    (Nest.found [("__path__", Nest.stop)] "app.Outer.Inner").1 = .error (.thrown Nest.stop) := by
  obtain ⟨σ', ρ, hcolon, himport, hσ', hmissing⟩ := Nest.found_colon (.inr rfl)
  have hresult : ((Nest.found [("__path__", Nest.stop)] "app.Outer.Inner").1.map fun _ => ()) =
      .error (.thrown Nest.stop) := by decide +kernel
  refine ⟨σ', hcolon, fun j hj hle τ hτ => ?_, map_eq_error.mp hresult⟩
  obtain ⟨part, ρ', hrun, hρ'⟩ := Resolution.fails_of_isMissing himport hσ' hj hτ
    fun i hi hij => hmissing i hi (hij.trans hle)
  exact ⟨_, ρ', hrun, hρ'⟩

end MacroStubs
