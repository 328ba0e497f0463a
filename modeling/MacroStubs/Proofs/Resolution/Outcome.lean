import MacroStubs.Proofs.Collection.Gathering
import MacroStubs.Proofs.Resolution.Loading

/-! # What comes of an identifier

An identifier names a class, or nothing. Only an exit that passes through every handler gets out of its
resolution, and both the class and the exit come out of one of its splits.
-/

namespace MacroStubs

namespace Resolution

variable {σ τ : State} {r : Reach} {importModule : String → Run Unit}
variable {identifier module : String} {path : List String} {found : Except Failure Value}
variable {result : Except Failure (Option Value)}

/-- What one split of an identifier gives and the state that this leaves, once the modules of some others
have been tried. -/
def Gives (r : Reach) (importModule : String → Run Unit) (identifier : String) (σ : State)
    (found : Except Failure Value) (τ : State) : Prop :=
  ∃ module path attempts ρ, module ≠ "" ∧ path ≠ [] ∧ IsSplit (Text.trim identifier) module path ∧
    Attempted importModule attempts σ ρ ∧
    (∀ a ∈ attempts, a.1 ∈ modulesOf (Text.trim identifier).toList) ∧
    loaded r importModule module path ρ = found ∧ ((importModule module).run ρ).2.AgreesWith τ

end Resolution

namespace Outage

/-- A module whose import is interrupted by what is neither an exception nor an exit. -/
def site : Site :=
  (Site.empty default).addModules
    [{ name := "bad", failure := some { kind := "BaseException", message := "boom" } }]

end Outage

end MacroStubs
