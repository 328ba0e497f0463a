import MacroStubs.Proofs.Lookup.Access
import Mathlib.Data.List.Chain
import Mathlib.Data.List.Perm.Subperm

/-! # Chains of pairs

A macro that is a pair leads from one access to another one. What reading gives is told by the last access
of the chain, and a chain that comes back to an access never ends. Nothing in the hooks bounds a chain: it
is the registries that do, since each access behind the first is a pair that one of them holds.
-/

namespace MacroStubs

open Relation (ReflTransGen TransGen)

section

variable {α : Type} {R : α → α → Prop} {a b c last : α} {chain targets : List α}

/-- What a chain leads to that never comes back is not longer than all there is to lead to. -/
theorem length_le_of_isChain (hchain : List.IsChain R (a :: chain))
    (hback : ∀ b, ReflTransGen R a b → ¬ TransGen R b b) (htargets : ∀ x y, R x y → y ∈ targets) :
    chain.length ≤ targets.length := by
  have hpairs : (a :: chain).Pairwise (TransGen R) :=
    List.isChain_iff_pairwise.mp (hchain.imp fun _ _ h => .single h)
  obtain ⟨hreach, hlater⟩ := List.pairwise_cons.mp hpairs
  have hne : ∀ {x y}, x ∈ chain → y ∈ chain → TransGen R x y → x ≠ y := by
    rintro x _ hx - hxy rfl
    exact hback x (hreach x hx).to_reflTransGen hxy
  have hnodup : chain.Nodup := hlater.imp_of_mem hne
  have hsubset : chain ⊆ targets := fun x hx => by
    obtain ⟨y, -, hy⟩ := Relation.TransGen.tail'_iff.mp (hreach x hx)
    exact htargets y x hy
  exact (hnodup.subperm hsubset).length_le

/-- A chain that never comes back ends if there is only so much to lead to. -/
theorem exists_end (hback : ∀ b, ReflTransGen R a b → ¬ TransGen R b b)
    (htargets : ∀ x y, R x y → y ∈ targets) :
    ∃ last, ReflTransGen R a last ∧ ∀ b, ¬ R last b := by
  by_contra hnone
  have hnext : ∀ x, ReflTransGen R a x → ∃ y, R x y := by
    intro x hx
    by_contra hx'
    exact hnone ⟨x, hx, fun y hy => hx' ⟨y, hy⟩⟩
  -- otherwise there are chains of every length
  have hlong : ∀ n x, ReflTransGen R a x → ∃ chain, List.IsChain R (x :: chain) ∧ chain.length = n := by
    intro n
    induction n with
    | zero => exact fun x _ => ⟨[], .singleton x, rfl⟩
    | succ n ih =>
      intro x hx
      obtain ⟨y, hy⟩ := hnext x hx
      obtain ⟨chain, hchain, hn⟩ := ih y (hx.tail hy)
      exact ⟨y :: chain, List.isChain_cons_cons.mpr ⟨hy, hchain⟩, congrArg (· + 1) hn⟩
  obtain ⟨chain, hchain, hn⟩ := hlong (targets.length + 1) a .refl
  have hle := length_le_of_isChain hchain hback htargets
  omega

/-- What is on a way back to itself leads only to such. -/
theorem transGen_self_of_reflTransGen (hR : ∀ x y z, R x y → R x z → y = z) (hb : TransGen R b b)
    (h : ReflTransGen R b c) : TransGen R c c := by
  induction h with
  | refl => exact hb
  | @tail x y _ hxy ih =>
    obtain ⟨z, hxz, hzx⟩ := Relation.TransGen.head'_iff.mp ih
    obtain rfl := hR x y z hxy hxz
    exact .tail' hzx hxy

/-- A chain that ends never comes back. -/
theorem not_transGen_self_of_end (hR : ∀ x y z, R x y → R x z → y = z)
    (h : ReflTransGen R a last) (hend : ∀ b, ¬ R last b) (hb : ReflTransGen R a b) :
    ¬ TransGen R b b := by
  intro hback
  have hlast : ReflTransGen R b last := by
    rcases Relation.ReflTransGen.total_of_right_unique (fun x y z => hR x y z) h hb with hl | hl
    · rcases Relation.ReflTransGen.cases_head hl with rfl | ⟨x, hx, -⟩
      · exact .refl
      · exact absurd hx (hend x)
    · exact hl
  obtain ⟨x, hx, -⟩ := Relation.TransGen.head'_iff.mp (transGen_self_of_reflTransGen hR hback hlast)
  exact hend x hx

end

variable {w : World} {r : Reach} {σ : State} {c k : ClassId} {v entry found : Value} {name : String}
variable {classes : List ClassId} {e : Value × Value} {f : Failure}

/-- A value and the name that is read on it. -/
abbrev Access := Value × String

/-- A name that is sought among the macros of a class when it is read on a value. -/
structure IsSought (w : World) (r : Reach) (σ : State) (classes : List ClassId) (c : ClassId) (v : Value)
    (name : String) : Prop where
  mem : c ∈ classes
  seeks : Seeks σ c v
  unknown : IsUnknown w r σ v name
  free : Text.beginsWith name "__" = false

/-- A family that leaves unknown names to the root class and to the class of macroable classes, and is all
that does. -/
structure Hooked (σ : State) (classes : List ClassId) : Prop where
  family : Family σ classes
  answers : ∀ c ∈ classes, Answers σ c
  ofObjects : ∀ id n, σ.inLineage (.defined id) "__getattr__" = some (.native n) →
    .defined id ∈ rootMetaclass :: classes
  ofClasses : ∀ id, .defined id ∈ classes ∨ σ.metaclass (.defined id) = .builtin "type"

namespace Access

/-- A chain leads on from a name that means a pair. -/
inductive Leads (w : World) (r : Reach) (σ : State) (classes : List ClassId) : Access → Access → Prop
  | intro {c : ClassId} {v entry : Value} {name : String} {next : Access}
      (hs : IsSought w r σ classes c v name)
      (hfound : Registry.find? σ c (.str name) = .ok (some entry)) (hpair : entry.pair? = some next) :
      Leads w r σ classes (v, name) next

/-- A chain that ends leads to its last access and not on from it. -/
def EndsAt (w : World) (r : Reach) (σ : State) (classes : List ClassId) (a last : Access) : Prop :=
  ReflTransGen (Leads w r σ classes) a last ∧ ∀ b, ¬ Leads w r σ classes last b

/-- A chain that comes back leads to an access that leads to itself. -/
def ComesBack (w : World) (r : Reach) (σ : State) (classes : List ClassId) (a : Access) : Prop :=
  ∃ b, ReflTransGen (Leads w r σ classes) a b ∧ TransGen (Leads w r σ classes) b b

/-- What the last access of a chain gives by itself. -/
inductive Yields (w : World) (r : Reach) (σ : State) (classes : List ClassId) :
    Access → Except Failure Value → Prop
  /-- The attribute that ordinary look-up finds. -/
  | ordinary {v found : Value} {name : String} (h : Attribute.ordinary w r σ v name = .ok found) :
      Yields w r σ classes (v, name) (.ok found)
  /-- What the attribute raises when it is read, other than that it is not there. -/
  | raised {v : Value} {name : String} {f : Failure} (h : Attribute.ordinary w r σ v name = .error f)
      (hf : f.isAttribute = false) : Yields w r σ classes (v, name) (.error f)
  | reserved {c : ClassId} {v : Value} {name : String} (hc : c ∈ classes) (hs : Seeks σ c v)
      (hu : IsUnknown w r σ v name) (hname : Text.beginsWith name "__" = true) :
      Yields w r σ classes (v, name) (.error (.unknownName name))
  | notFound {c : ClassId} {v : Value} {name : String} (hs : IsSought w r σ classes c v name)
      (hfound : Registry.find? σ c (.str name) = .ok none) :
      Yields w r σ classes (v, name) (.error (.macroNotFound (σ.qualname c) name))
  /-- A marked function is bound to the last object. -/
  | bound {c : ClassId} {v entry : Value} {name : String} (hs : IsSought w r σ classes c v name)
      (hfound : Registry.find? σ c (.str name) = .ok (some entry)) (hm : IsMarked σ entry)
      (hv : v.isClass = false) : Yields w r σ classes (v, name) (.ok (.bound none entry v))
  | registered {c : ClassId} {v entry : Value} {name : String} (hs : IsSought w r σ classes c v name)
      (hfound : Registry.find? σ c (.str name) = .ok (some entry)) (hpair : entry.pair? = none)
      (hm : ¬ IsMarked σ entry ∨ v.isClass = true) : Yields w r σ classes (v, name) (.ok entry)
  | missing {v : Value} {name : String} {f : Failure} (ho : ∀ c ∈ classes, ¬ Seeks σ c v)
      (h : Attribute.ordinary w r σ v name = .error f) (hf : f.isAttribute = true)
      (hhook : σ.inLineage (σ.classOf v) "__getattr__" = none) :
      Yields w r σ classes (v, name) (.error f)
  /-- The class of another value may have a hook of its own. -/
  | answered {v hook : Value} {name : String} (ho : ∀ c ∈ classes, ¬ Seeks σ c v)
      (hu : IsUnknown w r σ v name)
      (hhook : σ.inLineage (σ.classOf v) "__getattr__" = some hook) :
      Yields w r σ classes (v, name) (do
        let hook ← Descriptor.get r σ hook (some v) (.cls (σ.classOf v))
        r.value σ hook [.str name])

end Access

/-- Classes that are built in keep no function of the root class. -/
theorem Catalogue.find?_ne_native {owner name : String} {n : Native} :
    Catalogue.find? owner name ≠ some (.native n) := by
  rw [Catalogue.find?]
  split
  · intro h
    obtain ⟨m, -, hm⟩ := Option.map_eq_some_iff.mp h
    rw [Catalogue.raw] at hm
    split at hm <;> first | cases hm | skip
    unfold Catalogue.docValue at hm
    split at hm <;> cases hm
  · split <;> nofun

theorem State.inLineage_builtin_ne_native {owner name : String} {n : Native} :
    σ.inLineage (.builtin owner) name ≠ some (.native n) := by
  intro h
  obtain ⟨k, hk, hfound⟩ := List.exists_of_findSome?_eq_some h
  have hbuiltin : ∃ other, k = .builtin other := by
    rw [State.lineage, Catalogue.lineage] at hk
    split at hk <;> simp only [List.mem_cons, List.not_mem_nil, or_false] at hk
    · exact ⟨_, hk⟩
    · rcases hk with rfl | rfl <;> exact ⟨_, rfl⟩
    · rcases hk with rfl | rfl <;> exact ⟨_, rfl⟩
    · rcases hk with rfl | rfl | rfl <;> exact ⟨_, rfl⟩
  obtain ⟨other, rfl⟩ := hbuiltin
  exact Catalogue.find?_ne_native hfound

namespace Table

variable {κ α : Type} [BEq κ] {t : Table κ α} {key : κ} {a : α}

theorem exists_mem_of_get? (h : get? t key = some a) : ∃ other, (other, a) ∈ t := by
  obtain ⟨d, hd, rfl⟩ := Option.map_eq_some_iff.mp h
  exact ⟨d.1, List.mem_of_find?_eq_some hd⟩

theorem mem_of_get? [LawfulBEq κ] (h : get? t key = some a) : (key, a) ∈ t := by
  obtain ⟨d, hd, rfl⟩ := Option.map_eq_some_iff.mp h
  have hkey : (d.1 == key) = true := by simpa using List.find?_some hd
  obtain rfl := eq_of_beq hkey
  exact List.mem_of_find?_eq_some hd

end Table

/-- What a class of a hierarchy has registered is among the entries of all mappings. -/
theorem Hierarchy.mem_mapped (h : Hierarchy σ classes) (hk : k ∈ classes) (he : e ∈ σ.registered k) :
    e ∈ σ.spaces.flatMap fun d => Attribute.mapped d.2 := by
  obtain ⟨id, rfl⟩ := h.exists_id hk
  obtain ⟨entries, hentries⟩ := h.registry _ hk
  rw [State.registered, hentries] at he
  have hmem := Table.mem_of_get? hentries
  have hspace : (id, σ.space id) ∈ σ.spaces := by
    rw [State.space] at hmem ⊢
    cases hs : Table.get? σ.spaces id with
    | none =>
      rw [hs] at hmem
      cases hmem
    | some space => exact Table.mem_of_get? hs
  exact List.mem_flatMap.mpr ⟨_, hspace, List.mem_flatMap.mpr ⟨_, hmem, he⟩⟩

/-- What a name means is an entry of one of the registries. -/
theorem Family.mem_mapped_of_find? (hf : Family σ classes) (hc : c ∈ classes)
    (hfound : Registry.find? σ c (.str name) = .ok (some entry)) :
    ∃ key, (key, entry) ∈ σ.spaces.flatMap fun d => Attribute.mapped d.2 := by
  have hregistered : ∀ k ∈ classes, Table.get? (σ.registered k) (Value.str name) = some entry →
      ∃ key, (key, entry) ∈ σ.spaces.flatMap fun d => Attribute.mapped d.2 := fun k hk h => by
    obtain ⟨key, hmem⟩ := Table.exists_mem_of_get? h
    exact ⟨key, hf.hierarchy.mem_mapped hk hmem⟩
  rw [hf.find?_eq hc, State.meaning?] at hfound
  rcases Option.or_eq_some_iff.mp (Except.ok.inj hfound) with hown | ⟨-, hshared⟩
  · obtain ⟨k, hk, hown⟩ := List.exists_of_findSome?_eq_some hown
    rw [Registry.own?] at hown
    split at hown
    · cases hown
    · rename_i hroot
      refine hregistered k ?_ hown
      by_contra hm
      rw [Registry.registered_of_none hroot (hf.hierarchy.others c hc k hk (.inl hm))] at hown
      cases hown
  · exact hregistered rootClass hf.hierarchy.root hshared

namespace Hooked

variable {a b : Access} {result : Except Failure Value}

theorem step_of_isSought (hσ : Hooked σ classes) (hs : IsSought w r σ classes c v name)
    {found : Option Value} (hfound : Registry.find? σ c (.str name) = .ok found) :
    Attribute.step w r σ v name = Attribute.ofFound σ v c name found :=
  ((hσ.answers c hs.mem).step_eq hs.seeks hs.unknown).trans
    ((hσ.answers c hs.mem).viaMacro_eq hs.free hfound)

/-- A pair takes no object. -/
theorem not_isMarked_of_pair (hpair : entry.pair? = some a) : ¬ IsMarked σ entry := by
  intro hm
  rw [pair?_of_plain hm.1] at hpair
  cases hpair

/-- An access that leads on is read by reading the next one. -/
theorem step_of_leads (hσ : Hooked σ classes) (h : Access.Leads w r σ classes a b) :
    Attribute.step w r σ a.1 a.2 = .ok (.next b.1 b.2) := by
  cases h with
  | intro hs hfound hpair =>
    rw [hσ.step_of_isSought hs hfound, Attribute.ofFound,
      Attribute.ofMacro_eq (.inl (not_isMarked_of_pair hpair)), hpair]

/-- A chain leads on from an access to one other at most. -/
theorem leads_unique (hσ : Hooked σ classes) (x y z : Access)
    (hy : Access.Leads w r σ classes x y) (hz : Access.Leads w r σ classes x z) : y = z := by
  have hnext := (hσ.step_of_leads hy).symm.trans (hσ.step_of_leads hz)
  obtain ⟨hv, hname⟩ := Attribute.Step.next.inj (Except.ok.inj hnext)
  exact Prod.ext hv hname

/-- What a chain leads to is a pair that one of the registries holds. -/
theorem leads_mem (hσ : Hooked σ classes) (x y : Access) (h : Access.Leads w r σ classes x y) :
    y ∈ (σ.spaces.flatMap fun d => Attribute.mapped d.2).filterMap fun e => e.2.pair? := by
  cases h with
  | intro hs hfound hpair =>
    obtain ⟨key, hmem⟩ := hσ.family.mem_mapped_of_find? hs.mem hfound
    exact List.mem_filterMap.mpr ⟨_, hmem, hpair⟩

/-- The hook of a value that is sought on no class of the family leads nowhere. -/
theorem viaHook_of_other (hσ : Hooked σ classes) (ho : ∀ c ∈ classes, ¬ Seeks σ c v) {hook : Value}
    (hhook : σ.inLineage (σ.classOf v) "__getattr__" = some hook) (f : Failure) :
    Attribute.viaHook r σ v name f = Attribute.Step.value <$> (do
      let hook ← Descriptor.get r σ hook (some v) (.cls (σ.classOf v))
      r.value σ hook [.str name]) := by
  have hclass : ∀ c, v = .cls c → hook ≠ .native .ofClass ∧ hook ≠ .native .ofObject := by
    rintro c rfl
    have hmeta : ∀ n, σ.metaclass c = .builtin "type" → hook ≠ .native n := by
      rintro n ht rfl
      rw [State.classOf, ht] at hhook
      exact State.inLineage_builtin_ne_native hhook
    have htype : σ.metaclass c = .builtin "type" := by
      cases c with
      | builtin owner => rfl
      | defined id => exact (hσ.ofClasses id).resolve_left fun hm => ho _ hm .cls
    exact ⟨hmeta _ htype, hmeta _ htype⟩
  have hobject : hook ≠ .native .ofObject := by
    rintro rfl
    cases hv : v.isClass with
    | true =>
      cases v <;> first | exact (hclass _ rfl).2 rfl | cases hv
    | false =>
      cases hk : σ.classOf v with
      | builtin owner =>
        rw [hk] at hhook
        exact State.inLineage_builtin_ne_native hhook
      | defined id =>
        rw [hk] at hhook
        rcases List.mem_cons.mp (hσ.ofObjects id _ hhook) with hm | hm
        · rw [hm] at hhook
          have hanswers := (hσ.answers _ hσ.family.hierarchy.root).ofClass
          cases hhook.symm.trans hanswers
        · exact ho _ hm (.object hv hk)
  rw [Attribute.viaHook.eq_3 _ _ _ _ _ _ hobject (fun c hv => (hclass c hv).1) hhook]
  cases Descriptor.get r σ hook (some v) (.cls (σ.classOf v)) <;> rfl

/-- A name that is sought leads on, or means by itself what reading gives. -/
theorem leads_or_yields_of_isSought (hσ : Hooked σ classes) (hs : IsSought w r σ classes c v name) :
    (∃ b, Access.Leads w r σ classes (v, name) b) ∨
      ∃ result, Access.Yields w r σ classes (v, name) result ∧
        Attribute.step w r σ v name = Attribute.Step.value <$> result := by
  have hfound := hσ.family.find?_eq hs.mem name
  have hstep := hσ.step_of_isSought hs hfound
  cases hm : σ.meaning? c name with
  | none =>
    rw [hm] at hfound hstep
    exact .inr ⟨_, .notFound hs hfound, hstep⟩
  | some entry =>
    rw [hm] at hfound hstep
    by_cases hbound : IsMarked σ entry ∧ v.isClass = false
    · refine .inr ⟨_, .bound hs hfound hbound.1 hbound.2, hstep.trans ?_⟩
      rw [Attribute.ofFound, Attribute.ofMacro_of_marked hbound.1 hbound.2]
      rfl
    · have hfree : ¬ IsMarked σ entry ∨ v.isClass = true := by
        rw [← Bool.not_eq_false]
        exact not_and_or.mp hbound
      cases hpair : entry.pair? with
      | some next => exact .inl ⟨next, .intro hs hfound hpair⟩
      | none =>
        refine .inr ⟨_, .registered hs hfound hpair hfree, hstep.trans ?_⟩
        rw [Attribute.ofFound, Attribute.ofMacro_eq hfree, hpair]
        rfl

/-- A chain leads on from an access, or reading gives what the access does by itself. -/
theorem leads_or_yields (hσ : Hooked σ classes) (w : World) (r : Reach) (a : Access) :
    (∃ b, Access.Leads w r σ classes a b) ∨
      ∃ result, Access.Yields w r σ classes a result ∧
        Attribute.step w r σ a.1 a.2 = Attribute.Step.value <$> result := by
  obtain ⟨v, name⟩ := a
  cases ho : Attribute.ordinary w r σ v name with
  | ok found =>
    refine .inr ⟨_, .ordinary ho, ?_⟩
    rw [Attribute.step, ho]
    rfl
  | error f =>
    have hstep : Attribute.step w r σ v name =
        if f.isAttribute then Attribute.viaHook r σ v name f else throw f := by
      rw [Attribute.step, ho]
    cases hf : f.isAttribute with
    | false =>
      rw [hf, if_neg Bool.false_ne_true] at hstep
      exact .inr ⟨_, .raised ho hf, hstep⟩
    | true =>
      rw [hf, if_pos rfl] at hstep
      have hu : IsUnknown w r σ v name := ⟨f, ho, hf⟩
      by_cases hseeks : ∃ c ∈ classes, Seeks σ c v
      · obtain ⟨c, hc, hs⟩ := hseeks
        cases hname : Text.beginsWith name "__" with
        | true =>
          refine .inr ⟨_, .reserved hc hs hu hname, hstep.trans ?_⟩
          rw [(hσ.answers c hc).viaHook_eq hs, Attribute.viaMacro, hname, if_pos rfl]
          rfl
        | false => exact hσ.leads_or_yields_of_isSought ⟨hc, hs, hu, hname⟩
      · have hother : ∀ c ∈ classes, ¬ Seeks σ c v := fun c hc hs => hseeks ⟨c, hc, hs⟩
        cases hhook : σ.inLineage (σ.classOf v) "__getattr__" with
        | none =>
          refine .inr ⟨_, .missing hother ho hf hhook, hstep.trans ?_⟩
          rw [Attribute.viaHook.eq_4 _ _ _ _ _ hhook]
          rfl
        | some hook =>
          exact .inr ⟨_, .answered hother hu hhook, hstep.trans (hσ.viaHook_of_other hother hhook f)⟩

theorem readIn_of_leads (hσ : Hooked σ classes) (h : Access.Leads w r σ classes a b) (n : Nat) :
    Attribute.readIn w r σ (n + 1) a.1 a.2 = Attribute.readIn w r σ n b.1 b.2 := by
  rw [Attribute.readIn, hσ.step_of_leads h]
  rfl

/-- Reading follows a chain to its end. -/
theorem readIn_of_isChain (hσ : Hooked σ classes) {chain : List Access}
    (hchain : List.IsChain (Access.Leads w r σ classes) (a :: chain)) (n : Nat) :
    Attribute.readIn w r σ (n + chain.length) a.1 a.2 =
      Attribute.readIn w r σ n ((a :: chain).getLast (List.cons_ne_nil _ _)).1
        ((a :: chain).getLast (List.cons_ne_nil _ _)).2 := by
  induction chain generalizing a with
  | nil => rfl
  | cons b rest ih =>
    obtain ⟨hab, hrest⟩ := List.isChain_cons_cons.mp hchain
    rw [List.length_cons, ← Nat.add_assoc, hσ.readIn_of_leads hab, ih hrest,
      List.getLast_cons (List.cons_ne_nil b rest)]

theorem exists_readIn_of_end (hσ : Hooked σ classes) (hend : ∀ b, ¬ Access.Leads w r σ classes a b) :
    ∃ result, Access.Yields w r σ classes a result ∧
      ∀ n, Attribute.readIn w r σ (n + 1) a.1 a.2 = result := by
  rcases hσ.leads_or_yields w r a with ⟨b, hb⟩ | ⟨result, hyields, hstep⟩
  · exact absurd hb (hend b)
  · refine ⟨result, hyields, fun n => ?_⟩
    rw [Attribute.readIn, hstep]
    cases result <;> rfl

/-- A chain that comes back exhausts every number of steps. -/
theorem readIn_of_comesBack (hσ : Hooked σ classes) (h : Access.ComesBack w r σ classes a) (n : Nat) :
    Attribute.readIn w r σ n a.1 a.2 = .error .nestingTooDeep := by
  induction n generalizing a with
  | zero => rfl
  | succ n ih =>
    obtain ⟨b, hab, hback⟩ := h
    rcases Relation.ReflTransGen.cases_head hab with rfl | ⟨next, hnext, hrest⟩
    · obtain ⟨next, hnext, hrest⟩ := Relation.TransGen.head'_iff.mp hback
      rw [hσ.readIn_of_leads hnext]
      exact ih ⟨a, hrest, hback⟩
    · rw [hσ.readIn_of_leads hnext]
      exact ih ⟨b, hrest, hback⟩

theorem comesBack_iff_not_end (hσ : Hooked σ classes) (w : World) (r : Reach) (a : Access) :
    (∃ last, Access.EndsAt w r σ classes a last) ↔ ¬ Access.ComesBack w r σ classes a := by
  constructor
  · rintro ⟨last, hlast, hend⟩ ⟨b, hb, hback⟩
    exact not_transGen_self_of_end hσ.leads_unique hlast hend hb hback
  · intro hback
    exact exists_end (fun b hb hbb => hback ⟨b, hb, hbb⟩) hσ.leads_mem

/-- A chain that ends is read within the steps that there are: it leads to no pair twice. -/
theorem readThrough_of_endsAt (hσ : Hooked σ classes) {last : Access}
    (h : Access.EndsAt w r σ classes a last) :
    Attribute.readThrough w r σ a.1 a.2 = Attribute.readThrough w r σ last.1 last.2 ∧
      Access.Yields w r σ classes last (Attribute.readThrough w r σ a.1 a.2) := by
  have hback := (hσ.comesBack_iff_not_end w r a).mp ⟨last, h⟩
  obtain ⟨chain, hchain, rfl⟩ := List.exists_isChain_cons_of_relationReflTransGen h.1
  have hle := length_le_of_isChain hchain (fun b hb hbb => hback ⟨b, hb, hbb⟩) hσ.leads_mem
  have htotal : chain.length ≤ Attribute.totalEntries σ.spaces :=
    hle.trans (List.length_filterMap_le _ _)
  obtain ⟨n, hn⟩ : ∃ n, Attribute.totalEntries σ.spaces + σ.classes.length + 2 =
      n + 1 + chain.length := ⟨Attribute.totalEntries σ.spaces - chain.length + σ.classes.length + 1,
    by omega⟩
  obtain ⟨result, hyields, hread⟩ := hσ.exists_readIn_of_end h.2
  have hfirst : Attribute.readThrough w r σ a.1 a.2 = result := by
    rw [Attribute.readThrough, hn, hσ.readIn_of_isChain hchain, hread]
  have hlast : Attribute.readThrough w r σ _ _ = result := hread _
  rw [hfirst, hlast]
  exact ⟨rfl, hyields⟩

end Hooked

namespace Access

/-- Reading an access by itself raises nothing but that the name is not there, and asks no other hook. -/
def IsPlain (w : World) (r : Reach) (σ : State) (classes : List ClassId) (a : Access) : Prop :=
  (∀ f, Attribute.ordinary w r σ a.1 a.2 = .error f → f.isAttribute = true) ∧
    ((∀ c ∈ classes, ¬ Seeks σ c a.1) → σ.inLineage (σ.classOf a.1) "__getattr__" = none)

theorem Yields.isPlain {last : Access} {result : Except Failure Value}
    (h : Yields w r σ classes last result) (hplain : IsPlain w r σ classes last) :
    (∃ v, result = .ok v) ∨ ∃ f, result = .error f ∧ f.isAttribute = true := by
  cases h with
  | ordinary h => exact .inl ⟨_, rfl⟩
  | raised h hf => exact absurd (hplain.1 _ h) (by rw [hf]; exact Bool.false_ne_true)
  | reserved hc hs hu hname => exact .inr ⟨_, rfl, rfl⟩
  | notFound hs hfound => exact .inr ⟨_, rfl, rfl⟩
  | bound hs hfound hm hv => exact .inl ⟨_, rfl⟩
  | registered hs hfound hpair hm => exact .inl ⟨_, rfl⟩
  | missing ho h hf hhook => exact .inr ⟨_, rfl, hf⟩
  | answered ho hu hhook => exact absurd (hhook.symm.trans (hplain.2 ho)) nofun

end Access

/-- Reading an attribute follows the chain of pairs, and gives what the last access gives by itself. A
chain that comes back gives nothing, and every other one ends; so where the last access raises nothing of
its own, reading gives a value or tells that there is none exactly if the chain ends. -/
theorem reading_of_chain (hσ : Hooked σ classes) (a : Access) :
    let r := Reach.within w (Value.maxNesting - 1)
    let read := fun a : Access => (Reach.of w).read σ a.1 a.2
    (∀ last, Access.EndsAt w r σ classes a last →
      read a = read last ∧ Access.Yields w r σ classes last (read a)) ∧
    (Access.ComesBack w r σ classes a → read a = .error .nestingTooDeep) ∧
    ((∃ last, Access.EndsAt w r σ classes a last) ↔ ¬ Access.ComesBack w r σ classes a) ∧
    ((∀ last, Access.EndsAt w r σ classes a last → Access.IsPlain w r σ classes last) →
      (((∃ v, read a = .ok v) ∨ ∃ f, read a = .error f ∧ f.isAttribute = true) ↔
        ∃ last, Access.EndsAt w r σ classes a last)) := by
  intro r read
  have hback : Access.ComesBack w r σ classes a → read a = .error .nestingTooDeep := fun h =>
    hσ.readIn_of_comesBack h _
  have hends := hσ.comesBack_iff_not_end w r a
  refine ⟨fun last h => hσ.readThrough_of_endsAt h, hback, hends, fun hplain => ?_⟩
  constructor
  · intro hread
    refine hends.mpr fun h => ?_
    rw [hback h] at hread
    rcases hread with ⟨v, hv⟩ | ⟨f, hf, hattribute⟩
    · cases hv
    · cases hf
      cases hattribute
  · rintro ⟨last, h⟩
    exact (hσ.readThrough_of_endsAt h).2.isPlain (hplain last h)

/-- A family is all that leaves unknown names to the hooks of the root class if no other class has a hook,
descends from a class with one or is an object of such a class. -/
theorem Hooked.of_tables (hf : Family σ classes) (ha : ∀ c ∈ classes, Answers σ c)
    (hspaces : ∀ e ∈ σ.spaces, (Table.get? e.2 "__getattr__").isSome = true →
      .defined e.1 ∈ rootMetaclass :: classes)
    (hlineages : ∀ e ∈ σ.classes, (∃ k ∈ e.2.lineage, k ∈ rootMetaclass :: classes) →
      .defined e.1 ∈ rootMetaclass :: classes)
    (hmetaclasses : ∀ e ∈ σ.classes, .defined e.1 ∈ classes ∨ e.2.metaclass = .builtin "type") :
    Hooked σ classes := by
  have hclass : ∀ id, (∃ info, (id, info) ∈ σ.classes ∧ σ.lineage (.defined id) = info.lineage ∧
        σ.metaclass (.defined id) = info.metaclass) ∨
      σ.lineage (.defined id) = [.defined id, objectClass] ∧
        σ.metaclass (.defined id) = .builtin "type" := by
    intro id
    rw [State.lineage, State.metaclass]
    cases hinfo : Table.get? σ.classes id with
    | none => exact .inr ⟨rfl, rfl⟩
    | some info => exact .inl ⟨info, Table.mem_of_get? hinfo, rfl, rfl⟩
  refine ⟨hf, ha, fun id n h => ?_, fun id => ?_⟩
  · obtain ⟨k, hk, hfound⟩ := List.exists_of_findSome?_eq_some h
    have hkept : k ∈ rootMetaclass :: classes := by
      cases k with
      | builtin owner => exact absurd hfound Catalogue.find?_ne_native
      | defined other =>
        have hspace : Table.get? (σ.space other) "__getattr__" = some (.native n) := hfound
        rw [State.space] at hspace
        cases hs : Table.get? σ.spaces other with
        | none =>
          rw [hs] at hspace
          cases hspace
        | some space =>
          rw [hs] at hspace
          exact hspaces _ (Table.mem_of_get? hs) (Option.isSome_of_eq_some hspace)
    rcases hclass id with ⟨info, hinfo, hl, -⟩ | ⟨hl, -⟩
    · exact hlineages _ hinfo ⟨k, hl ▸ hk, hkept⟩
    · rw [hl] at hk
      rcases List.mem_cons.mp hk with rfl | hk
      · exact hkept
      · obtain rfl := List.mem_singleton.mp hk
        have hobject : Catalogue.find? "object" "__getattr__" = some (.native n) := hfound
        exact absurd hobject Catalogue.find?_ne_native
  · rcases hclass id with ⟨info, hinfo, -, hm⟩ | ⟨-, hm⟩
    · exact (hmetaclasses _ hinfo).imp_right hm.trans
    · exact .inr hm

namespace Relay

open Basket (top)

/-- Two macroable classes with an object each. -/
def site : Site :=
  (Site.empty default)
    |>.addClass "Left" "Left" "Left" "app" [rootClass] .null []
    |>.addClass "Right" "Right" "Right" "app" [rootClass] .null []
    |>.addObject "left" (.defined "Left") []
    |>.addObject "right" (.defined "Right") []

def family : List ClassId := [rootClass, .defined "Left", .defined "Right"]

/-- A pair of the first class leads to an object of the second one, two others lead to each other. -/
def state : State :=
  (site.state.withMacros (.defined "Left")
      [("go", .tuple [.objectRef "right", .str "stop"]),
        ("turn", .tuple [.cls (.defined "Right"), .str "turn"])]).withMacros (.defined "Right")
    [("stop", top), ("turn", .tuple [.cls (.defined "Left"), .str "turn"])]

theorem family_state : Family state family := by decide

theorem answers_state : ∀ c ∈ family, Answers state c := by
  simp only [family, List.forall_mem_cons]
  exact ⟨⟨by decide, rfl, rfl⟩, ⟨by decide, rfl, rfl⟩, ⟨by decide, rfl, rfl⟩, nofun⟩

theorem hooked_state : Hooked state family :=
  .of_tables family_state answers_state (by decide) (by decide) (by decide)

/-- How attributes are read inside a read. -/
abbrev reach : Reach := Reach.within site.world (Value.maxNesting - 1)

theorem isSought_go : IsSought site.world reach state family (.defined "Left") (.objectRef "left") "go" :=
  ⟨by decide, .object rfl rfl, .of_object rfl rfl rfl rfl rfl, by decide +kernel⟩

theorem isSought_turn {id : String} (h : id ∈ ["Left", "Right"]) :
    IsSought site.world reach state family (.defined id) (.cls (.defined id)) "turn" := by
  simp only [List.mem_cons, List.not_mem_nil, or_false] at h
  rcases h with rfl | rfl <;> exact ⟨by decide, .cls, .of_class rfl rfl, by decide +kernel⟩

theorem leads_go : Access.Leads site.world reach state family (.objectRef "left", "go")
    (.objectRef "right", "stop") :=
  .intro isSought_go (by with_unfolding_all rfl) rfl

/-- The object of the second class is bound. -/
theorem step_stop : Attribute.step site.world reach state (.objectRef "right") "stop" =
    .ok (.value (.bound none top (.objectRef "right"))) := by with_unfolding_all rfl

theorem endsAt_go : Access.EndsAt site.world reach state family (.objectRef "left", "go")
    (.objectRef "right", "stop") := by
  refine ⟨.single leads_go, fun b hb => ?_⟩
  have hstep := step_stop.symm.trans (hooked_state.step_of_leads hb)
  cases hstep

theorem comesBack_turn :
    Access.ComesBack site.world reach state family (.cls (.defined "Left"), "turn") :=
  ⟨_, .refl, .tail (.single (.intro (isSought_turn (by decide)) (by with_unfolding_all rfl) rfl))
    (.intro (isSought_turn (by decide)) (by with_unfolding_all rfl) rfl)⟩

end Relay

open Relay in
theorem relay_reading_of_chain :
    (Reach.of site.world).read state (.objectRef "left") "go" =
        .ok (.bound none Basket.top (.objectRef "right")) ∧
      (Reach.of site.world).read state (.cls (.defined "Left")) "turn" = .error .nestingTooDeep := by
  obtain ⟨hends, -⟩ := reading_of_chain (w := site.world) hooked_state (.objectRef "left", "go")
  obtain ⟨-, hback, -⟩ := reading_of_chain (w := site.world) hooked_state (.cls (.defined "Left"), "turn")
  exact ⟨(hends _ endsAt_go).1.trans (Attribute.readThrough_of_value step_stop), hback comesBack_turn⟩

namespace Horn

/-- An attribute that is a method of texts, and a hook of a class's own. -/
def site : Site :=
  (Site.empty default)
    |>.addClass "Horn" "Horn" "Horn" "app" [rootClass] .null [("shout", .member (.builtin "str") "upper")]
    |>.addClass "Tray" "Tray" "Tray" "app" [rootClass] .null [("__getattr__", Tray.anything)]
    |>.addObject "horn" (.defined "Horn") []
    |>.addObject "tray" (.defined "Tray") []

def family : List ClassId := [rootClass, .defined "Horn", .defined "Tray"]

abbrev reach : Reach := Reach.within site.world (Value.maxNesting - 1)

theorem ordinary_shout : Attribute.ordinary site.world reach site.state (.objectRef "horn") "shout" =
    .error (.memberMismatch "upper" "str" "Horn") := rfl

theorem not_leads_shout (b : Access) :
    ¬ Access.Leads site.world reach site.state family (.objectRef "horn", "shout") b := by
  rintro ⟨hs, -, -⟩
  obtain ⟨f, hf, hattribute⟩ := hs.unknown
  obtain rfl := Except.error.inj (ordinary_shout.symm.trans hf)
  cases hattribute

theorem not_leads_tap (b : Access) :
    ¬ Access.Leads site.world reach site.state family (.objectRef "tray", "tap") b := by
  rintro ⟨hs, hfound, -⟩
  have hclass : ∀ {c}, Seeks site.state c (.objectRef "tray") → c = .defined "Tray" := fun hs => by
    cases hs with
    | object hv hc => exact hc.symm
  rw [hclass hs.seeks] at hfound
  cases hfound

end Horn

open Horn in
/-- Reading the method on the first object raises that it is none of texts, though no chain leads on; and
the second object gives a value for a name that means nothing. -/
theorem horn_reading_fails :
    Access.EndsAt site.world reach site.state family (.objectRef "horn", "shout")
        (.objectRef "horn", "shout") ∧
      (Reach.of site.world).read site.state (.objectRef "horn") "shout" =
        .error (.memberMismatch "upper" "str" "Horn") ∧
      (Failure.memberMismatch "upper" "str" "Horn").isAttribute = false ∧
      Access.EndsAt site.world reach site.state family (.objectRef "tray", "tap")
        (.objectRef "tray", "tap") ∧
      Registry.find? site.state (.defined "Tray") (.str "tap") = .ok none ∧
      (Reach.of site.world).read site.state (.objectRef "tray") "tap" = .ok (.int 1) :=
  ⟨⟨.refl, not_leads_shout⟩, rfl, rfl, ⟨.refl, not_leads_tap⟩, rfl, by with_unfolding_all rfl⟩

end MacroStubs
