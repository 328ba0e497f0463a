import MacroStubs.Proofs.Collection.Attempts
import MacroStubs.Proofs.Text.Pieces

/-! # What splits lead to

An identifier is read as a module and a path of attributes within it: around its first colon, or else
around any of its dots, the last one first. What can be handled of an import and of the reads behind it
leads to nothing, all else passes. The first split that leads to something, or fails, decides.
-/

namespace MacroStubs

namespace Resolution

section Splits

open Text (pieces)

variable {r : Reach} {importModule : String → Run Unit} {s module rest : String} {path : List String}

/-- Whether an identifier can be read as a module and a path of attributes within it. -/
def IsSplit (s module : String) (path : List String) : Prop :=
  ∃ rest, path = pieces '.' rest ∧
    (':' ∉ module.toList ∧ s = module ++ ":" ++ rest ∨ ':' ∉ s.toList ∧ s = module ++ "." ++ rest)

/-- The splits of a dotted text are those around its dots. -/
theorem mem_splits_pieces : (module, path) ∈ splits (pieces '.' s) ↔
    ∃ rest, path = pieces '.' rest ∧ s = module ++ "." ++ rest := by
  constructor
  · intro h
    obtain ⟨i, hi, he⟩ := List.mem_map.mp h
    rw [List.mem_reverse, List.mem_range] at hi
    obtain ⟨rfl, rfl⟩ := Prod.mk.inj he
    have htake : (pieces '.' s).take (i + 1) ≠ [] := by
      rw [← List.length_pos_iff, List.length_take]
      omega
    have hdrop : (pieces '.' s).drop (i + 1) ≠ [] := by
      rw [← List.length_pos_iff, List.length_drop]
      omega
    refine ⟨".".intercalate ((pieces '.' s).drop (i + 1)), ?_, ?_⟩
    · exact (Text.pieces_dotted hdrop fun p hp => Text.not_mem_of_mem_pieces (List.mem_of_mem_drop hp)).symm
    · rw [← String.intercalate_append_of_ne_nil htake hdrop, List.take_append_drop, Text.dotted_pieces]
  · rintro ⟨rest, rfl, rfl⟩
    have hm := List.length_pos_iff.mpr (Text.pieces_ne_nil '.' module)
    have hr := List.length_pos_iff.mpr (Text.pieces_ne_nil '.' rest)
    refine List.mem_map.mpr ⟨(pieces '.' module).length - 1, ?_, ?_⟩
    · rw [List.mem_reverse, List.mem_range, Text.pieces_append, List.length_append]
      omega
    · rw [Nat.sub_add_cancel hm, Text.pieces_append, List.take_left, List.drop_left, Text.dotted_pieces]

/-- The splits behind some parts come before the split in front of them, and those within them last. -/
theorem splits_append {as bs : List String} (has : as ≠ []) (hbs : bs ≠ []) : splits (as ++ bs) =
    ((List.range (bs.length - 1)).reverse.map fun i =>
        (".".intercalate (as ++ bs.take (i + 1)), bs.drop (i + 1))) ++
      (".".intercalate as, bs) :: (splits as).map fun e => (e.1, e.2 ++ bs) := by
  obtain ⟨n, hn⟩ := Nat.exists_eq_add_of_lt (List.length_pos_iff.mpr has)
  obtain ⟨m, hm⟩ := Nat.exists_eq_add_of_lt (List.length_pos_iff.mpr hbs)
  rw [Nat.zero_add] at hn hm
  have hrange : List.range (as.length + bs.length - 1) =
      List.range n ++ n :: (List.range m).map (n + 1 + ·) := by
    rw [hn, hm, show n + 1 + (m + 1) - 1 = n + 1 + m from by omega, List.range_add, List.range_succ,
      List.append_assoc, List.singleton_append]
  rw [splits, splits, List.length_append, hrange, hn, hm]
  simp only [Nat.add_sub_cancel, List.reverse_append, List.reverse_cons, List.map_append, List.map_cons,
    List.append_assoc, List.singleton_append, List.map_reverse, List.map_map]
  congr 1
  · congr 1
    refine List.map_congr_left fun i _ => ?_
    simp only [Function.comp_apply]
    rw [show n + 1 + i + 1 = as.length + (i + 1) from by omega, List.take_length_add_append,
      List.drop_length_add_append]
  · congr 1
    · rw [← hn, List.take_left, List.drop_left]
    · congr 1
      refine List.map_congr_left fun i hi => ?_
      have hi : i + 1 ≤ as.length := by
        rw [List.mem_range] at hi
        omega
      simp only [Function.comp_apply]
      rw [List.take_append_of_le_length hi, List.drop_append_of_le_length hi]

theorem candidate?_colon (h : ':' ∉ module.toList) :
    candidate? r importModule (module ++ ":" ++ rest).toList =
      load r importModule module (pieces '.' rest) := by
  have hlist : (module ++ ":" ++ rest).toList = module.toList ++ ':' :: rest.toList := by simp
  have hall : ∀ c ∈ module.toList, decide (c ≠ ':') = true := fun c hc =>
    decide_eq_true fun he => h (he ▸ hc)
  rw [candidate?, hlist, List.dropWhile_append_of_pos hall, List.takeWhile_append_of_pos hall]
  simp

theorem dropWhile_of_dotted (h : ':' ∉ s.toList) : s.toList.dropWhile (· ≠ ':') = [] :=
  List.dropWhile_eq_nil_iff.mpr fun _ hc => decide_eq_true fun he => h (he ▸ hc)

theorem candidate?_dotted (h : ':' ∉ s.toList) :
    candidate? r importModule s.toList = loadFirst r importModule (splits (pieces '.' s)) := by
  rw [candidate?, dropWhile_of_dotted h, String.ofList_toList]

end Splits

end Resolution

variable {σ τ ρ : State} {r : Reach} {importModule : String → Run Unit}

namespace Failure

variable {f : Failure}

theorem isHandled_of_isAttribute (h : f.isAttribute = true) : f.isHandled = true := by
  have hkind := List.contains_iff_mem.mp h
  rw [List.mem_pair] at hkind
  rw [isHandled]
  rcases hkind with hkind | hkind <;> rw [hkind] <;> decide

theorem isHandled_of_isImport (h : f.isImport = true) : f.isHandled = true := by
  have hkind := List.contains_iff_mem.mp h
  rw [List.mem_pair] at hkind
  rw [isHandled]
  rcases hkind with hkind | hkind <;> rw [hkind] <;> decide

end Failure

namespace Resolution

variable {module : String} {path : List String} {v : Value} {f : Failure}
variable {splits before later : List (String × List String)} {e : String × List String}
variable {result : Except Failure (Option Value)}

/-- What an import and reads lead to: to nothing if they fail with what can be handled. -/
def settled : Except Failure Value → Except Failure (Option Value)
  | .ok v => .ok (some v)
  | .error f => if f.isHandled then .ok none else .error f

/-- What a path of attributes within a module gives once the module has been imported. -/
def loaded (r : Reach) (importModule : String → Run Unit) (module : String) (path : List String)
    (σ : State) : Except Failure Value :=
  match (importModule module).run σ with
  | (.ok (), ρ) => path.foldlM (r.read ρ) (.moduleRef module)
  | (.error f, _) => .error f

theorem loaded_eq_ok : loaded r importModule module path σ = .ok v ↔
    ∃ ρ, (importModule module).run σ = (.ok (), ρ) ∧
      path.foldlM (r.read ρ) (.moduleRef module) = .ok v := by
  rw [loaded]
  generalize (importModule module).run σ = outcome
  obtain ⟨result, ρ⟩ := outcome
  cases result with
  | error f => exact iff_of_false nofun fun ⟨_, h, _⟩ => nomatch h
  | ok _ => exact ⟨fun h => ⟨ρ, rfl, h⟩, by rintro ⟨_, ⟨⟩, h⟩; exact h⟩

/-- A failure that is reported if it is none of some that can be handled. -/
theorem swallow_run {b : Bool} (hb : b = true → f.isHandled = true) (message : String) (σ : State) :
    ∃ τ, σ.AgreesWith τ ∧ (if b then pure none
      else if f.isHandled then do
        Run.debug reporter message
        pure none
      else throw f : Run (Option Value)).run σ = (settled (.error f), τ) := by
  rw [settled]
  cases b with
  | true =>
    rw [hb rfl]
    exact ⟨σ, .refl σ, rfl⟩
  | false =>
    cases f.isHandled with
    | true => exact ⟨_, (Run.IsQuiet.debug reporter message).agreesWith, rfl⟩
    | false => exact ⟨σ, .refl σ, rfl⟩

/-- Following a path reads one attribute after the other, and reports the first that cannot be read. -/
theorem follow_run (module : String) (v : Value) (path : List String) (σ : State) :
    ∃ τ, σ.AgreesWith τ ∧
      (follow r module v path).run σ = (settled (path.foldlM (r.read σ) v), τ) := by
  induction path generalizing v with
  | nil => exact ⟨σ, .refl σ, rfl⟩
  | cons name rest ih =>
    rw [follow, Run.get_bind, List.foldlM_cons]
    cases r.read σ v name with
    | ok next => exact ih next
    | error f => exact swallow_run Failure.isHandled_of_isAttribute _ σ

theorem load_run (hm : module ≠ "") (path : List String) (σ : State) :
    ∃ τ, ((importModule module).run σ).2.AgreesWith τ ∧ (load r importModule module path).run σ =
      (settled (loaded r importModule module path σ), τ) := by
  have hempty : ¬ module.isEmpty = true := fun h => hm (String.isEmpty_iff.mp h)
  rw [load, if_neg hempty, Run.attempt_bind, loaded]
  generalize (importModule module).run σ = outcome
  obtain ⟨result, ρ⟩ := outcome
  cases result with
  | ok _ => exact follow_run _ _ _ _
  | error f => exact swallow_run Failure.isHandled_of_isImport _ ρ

/-- Whether a split decides what an identifier leads to. -/
def IsDecisive (result : Except Failure (Option Value)) : Prop :=
  result ≠ .ok none ∧ result ≠ .ok (some .null)

/-- Where a split leads to nothing, those behind it are tried. -/
theorem loadFirst_of_vain (h : (load r importModule e.1 e.2).run σ = (result, ρ))
    (hv : ¬ IsDecisive result) : (loadFirst r importModule (e :: later)).run σ =
      (loadFirst r importModule later).run ρ := by
  have hr : result = .ok none ∨ result = .ok (some .null) := by
    rw [IsDecisive, ← not_or, not_not] at hv
    exact hv
  rw [loadFirst, Run.run_bind, h]
  rcases hr with rfl | rfl <;> rfl

theorem loadFirst_of_decisive (h : (load r importModule e.1 e.2).run σ = (result, ρ))
    (hd : IsDecisive result) : (loadFirst r importModule (e :: later)).run σ = (result, ρ) := by
  rw [loadFirst, Run.run_bind, h]
  rcases result with f | _ | v
  · rfl
  · exact absurd rfl hd.1
  · cases v <;> first | rfl | exact absurd rfl hd.2

theorem loadFirst_append (h : (loadFirst r importModule before).run σ = (.ok none, ρ)) :
    (loadFirst r importModule (before ++ later)).run σ = (loadFirst r importModule later).run ρ := by
  induction before generalizing σ with
  | nil =>
    cases h
    rfl
  | cons e before ih =>
    generalize hload : (load r importModule e.1 e.2).run σ = outcome
    obtain ⟨result, σ'⟩ := outcome
    by_cases hd : IsDecisive result
    · rw [loadFirst_of_decisive hload hd] at h
      obtain ⟨rfl, -⟩ := Prod.mk.inj h
      exact absurd rfl hd.1
    · rw [loadFirst_of_vain hload hd] at h
      rw [List.cons_append, loadFirst_of_vain hload hd]
      exact ih h

/-- What an identifier names of what it leads to. -/
def classed : Except Failure (Option Value) → Except Failure (Option Value)
  | .ok (some v) => .ok (if v.isClass then some v else none)
  | result => result

theorem some_eq_classed {found : Except Failure Value} (h : .ok (some v) = classed (settled found)) :
    found = .ok v := by
  rcases found with g | u
  · rw [settled] at h
    split at h <;> cases h
  · rw [settled, classed] at h
    split at h <;> cases h
    rfl

theorem resolve_run {identifier : String} (h : Text.trim identifier ≠ "") (σ : State) :
    ∃ τ, ((candidate? r importModule (Text.trim identifier).toList).run σ).2.AgreesWith τ ∧
      (resolve r importModule identifier).run σ =
        (classed ((candidate? r importModule (Text.trim identifier).toList).run σ).1, τ) := by
  have hempty : ¬ (Text.trim identifier).isEmpty = true := fun he => h (String.isEmpty_iff.mp he)
  have hskip (ρ : State) : ∃ τ, ρ.AgreesWith τ ∧ (do
      Run.debug reporter ("Class not resolvable, skipping: " ++ Text.trim identifier)
      pure none : Run (Option Value)).run ρ = (.ok none, τ) :=
    ⟨_, (Run.IsQuiet.debug _ _).agreesWith, rfl⟩
  rw [resolve, if_neg hempty, Run.run_bind]
  generalize (candidate? r importModule (Text.trim identifier).toList).run σ = outcome
  obtain ⟨result, ρ⟩ := outcome
  rcases result with f | _ | v
  · exact ⟨ρ, .refl ρ, rfl⟩
  · exact hskip ρ
  · rw [classed]
    dsimp only
    cases v.isClass with
    | true => exact ⟨ρ, .refl ρ, rfl⟩
    | false => exact hskip ρ

theorem resolve_blank {identifier : String} (h : Text.trim identifier = "") :
    resolve r importModule identifier = pure none := by
  rw [resolve, h]
  rfl

end Resolution
end MacroStubs
