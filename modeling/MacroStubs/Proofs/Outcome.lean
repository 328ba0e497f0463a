import MacroStubs.World.Basic
import Mathlib.Data.List.Forall2

/-! # Outcomes

What a computation that may fail gives. One computation gives no more than another if the other has
the same result wherever the first has any.
-/

namespace MacroStubs

variable {α β ε : Type}

section

variable {e : Except ε α} {u : ε}

theorem bind_eq_ok {f : α → Except ε β} {b : β} :
    (e >>= f) = .ok b ↔ ∃ a, e = .ok a ∧ f a = .ok b := by
  cases e <;> simp [bind, Except.bind]

theorem bind_eq_error {f : α → Except ε β} :
    (e >>= f) = .error u ↔ e = .error u ∨ ∃ a, e = .ok a ∧ f a = .error u := by
  cases e <;> simp [bind, Except.bind]

theorem pure_eq_ok {a b : α} : (pure a : Except ε α) = .ok b ↔ a = b := by
  simp [pure, Except.pure]

theorem map_eq_ok {f : α → β} {b : β} : e.map f = .ok b ↔ ∃ a, e = .ok a ∧ f a = b := by
  cases e <;> simp [Except.map]

theorem map_eq_error {f : α → β} : e.map f = .error u ↔ e = .error u := by
  cases e <;> simp [Except.map]

variable {f : α → Except ε β} {xs : List α}

/-- A list of computations gives what they give one by one. -/
theorem mapM_eq_ok {ys : List β} : xs.mapM f = .ok ys ↔ List.Forall₂ (fun x y => f x = .ok y) xs ys := by
  induction xs generalizing ys with
  | nil => rw [List.mapM_nil, pure_eq_ok, List.forall₂_nil_left_iff, eq_comm]
  | cons x xs ih =>
    rw [List.mapM_cons, List.forall₂_cons_left_iff]
    constructor
    · intro h
      obtain ⟨y, hy, h⟩ := bind_eq_ok.mp h
      obtain ⟨rest, hr, h⟩ := bind_eq_ok.mp h
      exact ⟨y, rest, hy, ih.mp hr, (pure_eq_ok.mp h).symm⟩
    · rintro ⟨y, rest, hy, hr, rfl⟩
      exact bind_eq_ok.mpr ⟨y, hy, bind_eq_ok.mpr ⟨rest, ih.mpr hr, rfl⟩⟩

/-- A list of computations gives something if each of them does. -/
theorem exists_mapM_eq_ok : (∃ ys, xs.mapM f = .ok ys) ↔ ∀ x ∈ xs, ∃ y, f x = .ok y := by
  simp only [mapM_eq_ok]
  induction xs with
  | nil => simp
  | cons x xs ih =>
    simp only [List.forall₂_cons_left_iff, List.forall_mem_cons, ← ih]
    constructor
    · rintro ⟨_, y, rest, hy, hr, rfl⟩
      exact ⟨⟨y, hy⟩, rest, hr⟩
    · rintro ⟨⟨y, hy⟩, rest, hr⟩
      exact ⟨_, y, rest, hy, hr, rfl⟩

/-- A list of computations fails as the first of them that fails. -/
theorem mapM_eq_error : xs.mapM f = .error u ↔ ∃ before x after, xs = before ++ x :: after ∧
    (∀ b ∈ before, ∃ y, f b = .ok y) ∧ f x = .error u := by
  induction xs with
  | nil => simp [pure, Except.pure]
  | cons x xs ih =>
    rw [List.mapM_cons, bind_eq_error]
    constructor
    · rintro (hx | ⟨y, hy, h⟩)
      · exact ⟨[], x, xs, rfl, List.forall_mem_nil _, hx⟩
      · rcases bind_eq_error.mp h with hrest | ⟨ys, -, h⟩
        · obtain ⟨before, x', after, rfl, hb, hx'⟩ := ih.mp hrest
          exact ⟨x :: before, x', after, rfl, List.forall_mem_cons.mpr ⟨⟨y, hy⟩, hb⟩, hx'⟩
        · cases h
    · rintro ⟨before, x', after, hxs, hb, hx'⟩
      cases before with
      | nil =>
        obtain ⟨rfl, rfl⟩ := List.cons.inj hxs
        exact .inl hx'
      | cons b before =>
        obtain ⟨rfl, rfl⟩ := List.cons.inj hxs
        obtain ⟨⟨y, hy⟩, hb⟩ := List.forall_mem_cons.mp hb
        exact .inr ⟨y, hy, bind_eq_error.mpr (.inl (ih.mpr ⟨before, x', after, rfl, hb, hx'⟩))⟩

end

/-- What the first computation gives, the second gives too. -/
def GivesNoMore (e e' : Except Failure α) : Prop := ∀ a, e = .ok a → e' = .ok a

namespace GivesNoMore

theorem refl (e : Except Failure α) : GivesNoMore e e := fun _ h => h

theorem bind {e e' : Except Failure α} {f f' : α → Except Failure β} (he : GivesNoMore e e')
    (hf : ∀ a, GivesNoMore (f a) (f' a)) : GivesNoMore (e >>= f) (e' >>= f') := by
  intro b hb
  obtain ⟨a, ha, hb⟩ := bind_eq_ok.mp hb
  exact bind_eq_ok.mpr ⟨a, he a ha, hf a b hb⟩

theorem of_bind {e : Except Failure α} {f f' : α → Except Failure β}
    (hf : ∀ a, GivesNoMore (f a) (f' a)) : GivesNoMore (e >>= f) (e >>= f') :=
  (refl e).bind hf

end GivesNoMore

namespace Run

variable {σ σ' : State} {a : α} {failure : Failure}

section

-- also for steps that change a sheet
variable {S : Type} {s s' : S} {x : ExceptT Failure (StateM S) α} {b : β}
variable {f : α → ExceptT Failure (StateM S) β}

theorem run_bind (x : ExceptT Failure (StateM S) α) (f : α → ExceptT Failure (StateM S) β) (s : S) :
    (x >>= f).run s = match x.run s with
      | (.ok a, s) => (f a).run s
      | (.error failure, s) => (.error failure, s) := by
  change ExceptT.bindCont f (x.run s).1 (x.run s).2 = _
  cases x.run s with
  | mk result s => cases result <;> rfl

theorem bind_of_ok (h : x.run s = (.ok a, s')) : (x >>= f).run s = (f a).run s' := by
  rw [run_bind, h]

theorem bind_of_error (h : x.run s = (.error failure, s')) :
    (x >>= f).run s = (.error failure, s') := by
  rw [run_bind, h]

theorem run_bind_eq_ok : (x >>= f).run s = (.ok b, s') ↔
    ∃ a t, x.run s = (.ok a, t) ∧ (f a).run t = (.ok b, s') := by
  rw [run_bind]
  constructor
  · intro h
    split at h
    · exact ⟨_, _, ‹_›, h⟩
    · cases h
  · rintro ⟨a, t, hx, hf⟩
    rw [hx]
    exact hf

end

/-- The state is at hand for what follows. -/
theorem get_bind {f : State → Run β} : ((get : Run State) >>= f).run σ = (f σ).run σ := rfl

/-- The outcome of an attempt is at hand for what follows, in the state that the attempt left. -/
theorem attempt_bind {x : Run α} {f : Except Failure α → Run β} :
    (Run.attempt x >>= f).run σ = (f (x.run σ).1).run (x.run σ).2 := rfl

theorem read_of_ok {g : State → Except Failure α} (h : g σ = .ok a) :
    (Run.read g).run σ = (.ok a, σ) := by
  rw [← h]
  rfl

end Run
end MacroStubs
