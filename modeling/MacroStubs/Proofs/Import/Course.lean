import MacroStubs.Proofs.Import.Lasting

/-! # Courses of imports

What importing comes to, whether it fails or not: bodies of modules begin, lead to further imports, and
complete or fail. No body begins of a module that is imported, nor before those above it are, and only a
body that fails takes its module away.
-/

namespace MacroStubs

/-- An element stands in the first of two lists or in the second one. -/
theorem eq_append_cons_of_append_eq {α : Type} {xs ys before after : List α} {x : α}
    (h : xs ++ ys = before ++ x :: after) :
    (∃ rest, xs = before ++ x :: rest) ∨ ∃ rest, before = xs ++ rest ∧ ys = rest ++ x :: after := by
  rcases List.append_eq_append_iff.mp h with ⟨rest, hb, hy⟩ | ⟨rest, hx, hy⟩
  · exact .inr ⟨rest, hb, hy⟩
  · cases rest with
    | nil => exact .inr ⟨[], by simpa using hx.symm, by simpa using hy.symm⟩
    | cons y rest =>
      obtain ⟨rfl, -⟩ := List.cons.inj hy
      exact .inl ⟨rest, hx⟩

namespace Import

variable {w : World} {r : Reach} {σ τ ρ : State} {n p : String} {m : ModuleInfo}

/-- Whether a module is right above another one, as `a.b` is above `a.b.c`. -/
def IsParent (parent name : String) : Prop :=
  ∃ part, Text.pieces '.' name = Text.pieces '.' parent ++ [part]

/-- Whether a module is above another one, as `a` and `a.b` are above `a.b.c`. -/
def IsAbove (above name : String) : Prop :=
  ∃ names ≠ [], Text.pieces '.' name = Text.pieces '.' above ++ names

inductive BodyEvent where
  | began (name : String)
  | completed (name : String)
  | failed (name : String)
  deriving DecidableEq, Repr

def BodyEvent.name : BodyEvent → String
  | began name | completed name | failed name => name

/-- The modules whose bodies began. -/
def begun (events : List BodyEvent) : List String :=
  events.filterMap fun | .began name => some name | _ => none

/-- How a module ends whose body has run: it stays, or it is forgotten and nothing else is. -/
inductive Ends (m : ModuleInfo) (τ : State) : Except Failure Unit → BodyEvent → State → Prop
  | completed (h : m.failure = none) : Ends m τ (.ok ()) (.completed m.name) τ
  | raised {t : Thrown} (h : m.failure = some t) :
      Ends m τ (.ok ()) (.failed m.name) (without m.name τ)
  | failed (f : Failure) : Ends m τ (.error f) (.failed m.name) (without m.name τ)

/-- Bodies of modules lead from one state to another one. -/
inductive Course (w : World) : List BodyEvent → State → State → Prop
  /-- What is done besides, as calling and registering are. -/
  | rest {σ τ : State} (h : σ.SameImports τ) : Course w [] σ τ
  | path {σ : State} {root : String} (h : root ∉ σ.searchPath) :
      Course w [] σ { σ with searchPath := root :: σ.searchPath }
  | body {σ τ ρ : State} {m : ModuleInfo} {depth : Nat} {result : Except Failure Unit}
      {inner : List BodyEvent} {last : BodyEvent} (hm : w.module? m.name = some m)
      (hnew : ¬ Holds m.name σ) (hparent : ∀ p, IsParent p m.name → Holds p σ)
      (hb : (bodyWithin w depth m).run (entered w m σ) = (result, τ))
      (hi : Course w inner (entered w m σ) τ) (he : Ends m τ result last ρ) :
      Course w (.began m.name :: (inner ++ [last])) σ ρ
  | append {σ τ ρ : State} {events later : List BodyEvent} (h : Course w events σ τ)
      (h' : Course w later τ ρ) : Course w (events ++ later) σ ρ

variable {events inner : List BodyEvent} {last : BodyEvent} {result : Except Failure Unit}

theorem sameImports_entered (w : World) (m : ModuleInfo) (σ : State) :
    State.SameImports { σ with
      executed := σ.executed ++ [m.name]
      modules := σ.modules.put m.name (attributesOf w m.name) } (entered w m σ) :=
  sameImports_putAttributes _ _ _

theorem holds_entered_iff : Holds n (entered w m σ) ↔ Holds n σ ∨ m.name = n := by
  refine ⟨fun h => ?_, holds_entered⟩
  by_cases hn : m.name = n
  · exact .inr hn
  · refine .inl ?_
    rwa [Holds, (sameImports_entered w m σ).imported, isImported, Table.get?_put_of_ne _ _ hn] at h

@[simp] theorem begun_cons_began (n : String) (events : List BodyEvent) :
    begun (.began n :: events) = n :: begun events := rfl

@[simp] theorem begun_append (events later : List BodyEvent) :
    begun (events ++ later) = begun events ++ begun later := List.filterMap_append

theorem mem_begun_iff : n ∈ begun events ↔ .began n ∈ events := by
  rw [begun, List.mem_filterMap]
  constructor
  · rintro ⟨e, he, h⟩
    cases e with
    | began name => exact Option.some.inj h ▸ he
    | completed name => cases h
    | failed name => cases h
  · exact fun h => ⟨_, h, rfl⟩

namespace Ends

theorem holds_iff (he : Ends m τ result last ρ) (hn : m.name ≠ n) : Holds n ρ ↔ Holds n τ := by
  have hwithout : Holds n (without m.name τ) ↔ Holds n τ := by
    rw [Holds, isImported, without, Table.get?_erase_of_ne _ hn]
    rfl
  cases he with
  | completed h => exact .rfl
  | raised h => exact hwithout
  | failed f => exact hwithout

theorem holds_or_failed (he : Ends m τ result last ρ) (h : Holds m.name τ) :
    Holds m.name ρ ∨ last = .failed m.name := by
  cases he with
  | completed _ => exact .inl h
  | raised _ => exact .inr rfl
  | failed _ => exact .inr rfl

theorem ne_began (he : Ends m τ result last ρ) (n : String) : last ≠ .began n := by
  cases he <;> exact nofun

theorem name_eq (he : Ends m τ result last ρ) : last.name = m.name := by cases he <;> rfl

theorem eq_of_completed (he : Ends m τ result last ρ) (h : last = .completed n) : ρ = τ := by
  cases he with
  | completed _ => rfl
  | raised _ => cases h
  | failed _ => cases h

theorem executed (he : Ends m τ result last ρ) : ρ.executed = τ.executed := by cases he <;> rfl

theorem searchPath (he : Ends m τ result last ρ) : ρ.searchPath = τ.searchPath := by cases he <;> rfl

end Ends

namespace Course

variable {later : List BodyEvent}

/-- A module that is imported stays imported, and its body does not begin. -/
theorem holds (hc : Course w events σ τ) (hσ : Holds n σ) : Holds n τ ∧ .began n ∉ events := by
  induction hc with
  | rest h => exact ⟨onImports_holds n hσ h, List.not_mem_nil⟩
  | path _ => exact ⟨hσ, List.not_mem_nil⟩
  | @body σ τ ρ m _ _ inner last _ hnew _ _ _ he ih =>
    have hn : m.name ≠ n := by
      rintro rfl
      exact hnew hσ
    obtain ⟨hτ, hinner⟩ := ih (holds_entered (.inl hσ))
    refine ⟨(he.holds_iff hn).mpr hτ, ?_⟩
    simp [hinner, hn.symm, (he.ne_began n).symm]
  | append _ _ ih ih' =>
    obtain ⟨hτ, hfirst⟩ := ih hσ
    obtain ⟨hρ, hlater⟩ := ih' hτ
    exact ⟨hρ, by simp [hfirst, hlater]⟩

/-- What is imported then was before, or its body began. -/
theorem holds_or_began (hc : Course w events σ τ) (hτ : Holds n τ) : Holds n σ ∨ .began n ∈ events := by
  induction hc with
  | rest h => exact .inl ((h.imported n).symm.trans hτ)
  | path _ => exact .inl hτ
  | @body σ τ ρ m _ _ inner last _ _ _ _ _ he ih =>
    by_cases hn : m.name = n
    · exact .inr (by simp [hn])
    · rcases ih ((he.holds_iff hn).mp hτ) with h | h
      · exact .inl ((holds_entered_iff.mp h).resolve_right hn)
      · exact .inr (by simp [h])
  | append _ _ ih ih' =>
    rcases ih' hτ with h | h
    · exact (ih h).imp_right (List.mem_append_left _)
    · exact .inr (List.mem_append_right _ h)

/-- A module whose body began is imported then, unless its body failed. -/
theorem holds_or_failed (hc : Course w events σ τ) (hn : .began n ∈ events) :
    Holds n τ ∨ .failed n ∈ events := by
  induction hc with
  | rest _ => cases hn
  | path _ => cases hn
  | @body σ τ ρ m _ _ inner last _ _ _ _ hi he ih =>
    by_cases hname : m.name = n
    · subst hname
      exact (he.holds_or_failed (hi.holds (holds_entered (.inr rfl))).1).imp_right fun h => by simp [h]
    · have hinner : .began n ∈ inner := by simpa [Ne.symm hname, (he.ne_began n).symm] using hn
      exact (ih hinner).imp (he.holds_iff hname).mpr fun h => by simp [h]
  | append _ hlater ih ih' =>
    rcases List.mem_append.mp hn with h | h
    · exact (ih h).imp (fun h => (hlater.holds h).1) (List.mem_append_left _)
    · exact (ih' h).imp_right (List.mem_append_right _)

/-- Only what began ends. -/
theorem began_of_mem {e : BodyEvent} (hc : Course w events σ τ) (hn : e ∈ events) :
    .began e.name ∈ events := by
  induction hc with
  | rest _ => cases hn
  | path _ => cases hn
  | body _ _ _ _ _ he ih =>
    rcases List.mem_cons.mp hn with rfl | hn
    · exact List.mem_cons_self
    · rcases List.mem_append.mp hn with h | h
      · exact List.mem_cons_of_mem _ (List.mem_append_left _ (ih h))
      · rw [List.mem_singleton.mp h, he.name_eq]
        exact List.mem_cons_self
  | append _ _ ih ih' => exact List.mem_append.mpr ((List.mem_append.mp hn).imp ih ih')

theorem executed (hc : Course w events σ τ) : τ.executed = σ.executed ++ begun events := by
  induction hc with
  | rest h => simp [h.executed, begun]
  | path _ => simp [begun]
  | @body σ τ ρ m _ _ inner last _ _ _ _ _ he ih =>
    have hlast : begun [last] = [] := by
      cases last with
      | began n => exact absurd rfl (he.ne_began n)
      | _ => rfl
    rw [he.executed, ih, (sameImports_entered w m σ).executed, List.append_assoc, begun_cons_began,
      begun_append, hlast, List.append_nil]
    rfl
  | append _ _ ih ih' => rw [ih', ih, begun_append, List.append_assoc]

/-- A module whose body completed stays imported. -/
theorem holds_of_completed (hc : Course w events σ τ) (hn : .completed n ∈ events) : Holds n τ := by
  induction hc with
  | rest _ => cases hn
  | path _ => cases hn
  | @body σ τ ρ m _ _ inner last _ _ _ _ hi he ih =>
    have hm := hi.holds (n := m.name) (holds_entered (.inr rfl))
    rcases List.mem_append.mp ((List.mem_cons.mp hn).resolve_left nofun) with h | h
    · have hne : m.name ≠ n := by
        rintro rfl
        exact hm.2 (hi.began_of_mem h)
      exact (he.holds_iff hne).mpr (ih h)
    · have hlast := (List.mem_singleton.mp h).symm
      have hname : n = m.name := by rw [← he.name_eq, hlast]; rfl
      rw [he.eq_of_completed hlast, hname]
      exact hm.1
  | append _ hlater ih ih' =>
    rcases List.mem_append.mp hn with h | h
    · exact (hlater.holds (ih h)).1
    · exact ih' h

/-- A body that completed does not begin again. -/
theorem completed_once (hc : Course w events σ τ) :
    events.Pairwise fun e e' => ∀ n, e = .completed n → e' ≠ .began n := by
  induction hc with
  | rest _ => exact .nil
  | path _ => exact .nil
  | body _ _ _ _ _ he ih =>
    refine List.pairwise_cons.mpr ⟨fun _ _ _ => nofun, List.pairwise_append.mpr ⟨ih, ?_, ?_⟩⟩
    · exact List.pairwise_singleton _ _
    · rintro e - e' he' n -
      rw [List.mem_singleton.mp he']
      exact he.ne_began n
  | append hfirst hlater ih ih' =>
    refine List.pairwise_append.mpr ⟨ih, ih', ?_⟩
    rintro e he _ hn n rfl rfl
    exact (hlater.holds (hfirst.holds_of_completed he)).2 hn

/-- A body begins where the module right above is imported: it was, or its body began before. -/
theorem parent_first {before after : List BodyEvent} (hc : Course w events σ τ)
    (h : events = before ++ .began n :: after) (hp : IsParent p n) :
    Holds p σ ∨ .began p ∈ before := by
  induction hc generalizing before after with
  | rest _ => simp at h
  | path _ => simp at h
  | @body σ τ ρ m _ _ inner last _ _ hparent _ _ he ih =>
    cases before with
    | nil =>
      obtain ⟨hname, -⟩ := List.cons.inj h
      exact .inl (hparent p (BodyEvent.began.inj hname ▸ hp))
    | cons first before =>
      obtain ⟨rfl, hrest⟩ := List.cons.inj h
      rcases eq_append_cons_of_append_eq hrest with ⟨rest, hinner⟩ | ⟨rest, rfl, hlast⟩
      · rcases ih hinner with h | h
        · rcases holds_entered_iff.mp h with h | h
          · exact .inl h
          · exact .inr (h ▸ List.mem_cons_self)
        · exact .inr (List.mem_cons_of_mem _ h)
      · have hmem : .began n ∈ [last] := hlast ▸ List.mem_append_right _ List.mem_cons_self
        exact absurd (List.mem_singleton.mp hmem).symm (he.ne_began n)
  | append hfirst _ ih ih' =>
    rcases eq_append_cons_of_append_eq h with ⟨rest, hleft⟩ | ⟨rest, rfl, hright⟩
    · exact ih hleft
    · rcases ih' hright with h | h
      · exact (hfirst.holds_or_began h).imp_right (List.mem_append_left _)
      · exact .inr (List.mem_append_right _ h)

/-- Places where modules are sought are added in front, and only where they are missing. -/
theorem searchPath (hc : Course w events σ τ) : ∃ added, τ.searchPath = added ++ σ.searchPath ∧
    added.Nodup ∧ ∀ root ∈ added, root ∉ σ.searchPath := by
  induction hc with
  | rest h => exact ⟨[], h.searchPath, List.nodup_nil, nofun⟩
  | @path σ root h => exact ⟨[root], rfl, by simp, by simpa using h⟩
  | @body σ τ ρ m _ _ _ _ _ _ _ _ _ he ih =>
    obtain ⟨added, hτ, hnodup, hnew⟩ := ih
    have hsame : (entered w m σ).searchPath = σ.searchPath := (sameImports_entered w m σ).searchPath
    rw [hsame] at hτ hnew
    exact ⟨added, he.searchPath.trans hτ, hnodup, hnew⟩
  | append _ _ ih ih' =>
    obtain ⟨added, hτ, hnodup, hnew⟩ := ih
    obtain ⟨more, hρ, hmore, hnewer⟩ := ih'
    rw [hτ] at hρ hnewer
    refine ⟨more ++ added, by rw [hρ, List.append_assoc], List.nodup_append.mpr ⟨hmore, hnodup, ?_⟩, ?_⟩
    · rintro root hr _ hr' rfl
      exact hnewer root hr (List.mem_append_left _ hr')
    · intro root hr hσ
      rcases List.mem_append.mp hr with hr | hr
      · exact hnewer root hr (List.mem_append_right _ hσ)
      · exact hnew root hr hσ

end Course

theorem pieces_joined {parts : List String} (hne : parts ≠ []) (hdots : ∀ part ∈ parts, '.' ∉ part.toList) :
    (Text.pieces '.' (joined parts)).reverse = parts := by
  rw [joined, Text.pieces_dotted (by simpa) (by simpa), List.reverse_reverse]

/-- Right above a module is the one that its name tells without the last part. -/
theorem isParent_joined_iff {part : String} {parents : List String}
    (hdots : ∀ x ∈ part :: parents, '.' ∉ x.toList) :
    IsParent p (joined (part :: parents)) ↔ parents ≠ [] ∧ p = joined parents := by
  have hpieces := congrArg List.reverse (pieces_joined (List.cons_ne_nil _ _) hdots)
  rw [List.reverse_reverse, List.reverse_cons] at hpieces
  rw [IsParent, hpieces]
  constructor
  · rintro ⟨_, h⟩
    have hp := List.append_inj_left' h rfl
    refine ⟨fun hnil => Text.pieces_ne_nil '.' p ?_, ?_⟩
    · rw [← hp, hnil, List.reverse_nil]
    · rw [joined, hp, Text.dotted_pieces]
  · rintro ⟨hne, rfl⟩
    refine ⟨part, ?_⟩
    rw [← pieces_joined hne (List.forall_mem_cons.mp hdots).2, List.reverse_reverse, pieces_joined hne
      (List.forall_mem_cons.mp hdots).2]

end Import
end MacroStubs
