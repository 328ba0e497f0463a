import MacroStubs.Proofs.Outcome
import MacroStubs.World.Call

/-! # Ordinary look-up

What reading an attribute gives that ordinary look-up finds: what the descriptor makes of the one
that the class holds, unless the object or the class above takes precedence.
-/

namespace MacroStubs

variable {w : World} {r : Reach} {σ : State} {v raw found : Value} {c : ClassId} {name : String}
variable {n : Nat}

theorem Reach.read_within (n : Nat) (σ : State) (v : Value) (name : String) :
    (Reach.within w (n + 1)).read σ v name =
      Attribute.readThrough w (Reach.within w n) σ v name := rfl

/-- How attributes are read within at least so many others. -/
theorem Reach.of_eq (w : World) : Reach.of w = Reach.within w (980 + 10) := rfl

namespace Attribute

theorem readThrough_of_ordinary (h : ordinary w r σ v name = .ok found) :
    readThrough w r σ v name = .ok found := by
  rw [readThrough, readIn, step, h]
  rfl

theorem ofObject?_of_held (hraw : σ.inLineage (σ.classOf v) name = some raw)
    (hown : Descriptor.isData σ raw = true ∨ (Descriptor.spaceOf σ v).get? name = none) :
    ofObject? r σ v name = some <$> Descriptor.get r σ raw (some v) (.cls (σ.classOf v)) := by
  rw [ofObject?, hraw]
  rcases hown with hd | hn
  · cases (Descriptor.spaceOf σ v).get? name with
    | none => rfl
    | some own => simp only [hd, if_true]
  · rw [hn]

/-- What the class holds is read unless the object has an attribute of its own in front of it. -/
theorem ordinary_of_held (hv : v.isClass = false)
    (hreader : Descriptor.definesSpecial σ v "__getattribute__" = false)
    (hraw : σ.inLineage (σ.classOf v) name = some raw)
    (hown : Descriptor.isData σ raw = true ∨ (Descriptor.spaceOf σ v).get? name = none) :
    ordinary w r σ v name = Descriptor.get r σ raw (some v) (.cls (σ.classOf v)) := by
  have ho := ofObject?_of_held (r := r) hraw hown
  by_cases hb : ∃ id inner self, v = .bound id inner self
  · obtain ⟨id, inner, self, rfl⟩ := hb
    have hm : σ.inLineage (.builtin "method") name = some raw := hraw
    rw [ordinary, hm]
    rfl
  by_cases hm : ∃ module, v = .moduleRef module
  · obtain ⟨module, rfl⟩ := hm
    rw [ordinary, ofModule, ho]
    cases Descriptor.get r σ raw (some (.moduleRef module)) _ <;> rfl
  have hk : ∀ c, v ≠ .cls c := by
    rintro c rfl
    cases hv
  rw [ordinary.eq_4 _ _ _ _ _ (fun m h => hm ⟨m, h⟩) hk (fun i f s h => hb ⟨i, f, s, h⟩), hreader,
    if_neg Bool.false_ne_true, ho]
  cases Descriptor.get r σ raw (some v) _ <;> rfl

/-- An object of a class of the world has neither what its class lacks nor anything in its place. -/
theorem ordinary_of_missing {id : String} (hv : v.isClass = false) (hc : σ.classOf v = .defined id)
    (hreader : Descriptor.definesSpecial σ v "__getattribute__" = false)
    (hraw : σ.inLineage (.defined id) name = none)
    (hown : (Descriptor.spaceOf σ v).get? name = none) :
    ordinary w r σ v name = .error (.noAttribute (σ.typeLabel v) name) := by
  have ho : ofObject? r σ v name = .ok none := by
    rw [ofObject?, hc, hraw, hown]
    rfl
  have hm : ∀ module, v ≠ .moduleRef module := by
    rintro module rfl
    cases hc
  have hb : ∀ id inner self, v ≠ .bound id inner self := by
    rintro i inner self rfl
    cases hc
  have hk : ∀ c, v ≠ .cls c := by
    rintro c rfl
    cases hv
  rw [ordinary.eq_4 _ _ _ _ _ hm hk hb, hreader, if_neg Bool.false_ne_true, ho]
  rfl

/-- What a class or an ancestor holds is read unless the class above takes precedence. -/
theorem ordinary_of_class (hraw : σ.inLineage c name = some raw)
    (habove : ∀ other, σ.inLineage (σ.metaclass c) name = some other →
      Descriptor.isData σ other = false) :
    ordinary w r σ (.cls c) name = Descriptor.get r σ raw none (.cls c) := by
  have ho : ofClass? r σ c name = some <$> Descriptor.get r σ raw none (.cls c) := by
    rw [ofClass?, hraw]
    cases hm : σ.inLineage (σ.metaclass c) name with
    | none => rfl
    | some other => simp only [habove other hm, if_neg Bool.false_ne_true]
  rw [ordinary, ho]
  cases Descriptor.get r σ raw none (.cls c) <;> rfl

/-- What the class above computes takes precedence over all that the class holds. -/
theorem ordinary_of_above (habove : σ.inLineage (σ.metaclass c) name = some raw)
    (hdata : Descriptor.isData σ raw = true) :
    ordinary w r σ (.cls c) name =
      Descriptor.get r σ raw (some (.cls c)) (.cls (σ.metaclass c)) := by
  have ho : ofClass? r σ c name =
      some <$> Descriptor.get r σ raw (some (.cls c)) (.cls (σ.metaclass c)) := by
    rw [ofClass?, habove]
    cases σ.inLineage c name with
    | none => rfl
    | some own => simp only [hdata, if_true]
  rw [ordinary, ho]
  cases Descriptor.get r σ raw (some (.cls c)) _ <;> rfl

end Attribute

namespace Function

variable {f : Value}

theorem classOf_of_plain (hf : f.isPlainFunction = true) : σ.classOf f = .builtin "function" := by
  cases f <;> first | rfl | cases hf

theorem isClass_of_plain (hf : f.isPlainFunction = true) : f.isClass = false := by
  cases f <;> first | rfl | cases hf

/-- A function shows the documentation that it has now. -/
theorem read_documentation (hf : f.isPlainFunction = true) (n : Nat) :
    (Reach.within w (n + 1)).read σ f "__doc__" = .ok (documentation σ f) := by
  have hc := classOf_of_plain (σ := σ) hf
  have hreader : Descriptor.definesSpecial σ f "__getattribute__" = false := by
    rw [Descriptor.definesSpecial, hc]
    rfl
  have hraw : σ.inLineage (σ.classOf f) "__doc__" =
      some (.member (.builtin "function") "__doc__") := by
    rw [hc]
    rfl
  have hi : σ.isInstance f (.builtin "function") = true := by
    rw [State.isInstance, hc]
    rfl
  rw [Reach.read_within]
  refine Attribute.readThrough_of_ordinary ?_
  rw [Attribute.ordinary_of_held (isClass_of_plain hf) hreader hraw (.inl rfl)]
  have hk : Catalogue.kindOf (.builtin "function") "__doc__" = .field := rfl
  have hg : Descriptor.get (Reach.within w n) σ (.member (.builtin "function") "__doc__") (some f)
      (.cls (σ.classOf f)) =
        Descriptor.throughObject (Reach.within w n) σ (.builtin "function") "__doc__" f := rfl
  rw [hg, Descriptor.throughObject, hi, if_pos rfl, hk]
  cases f <;> first | rfl | cases hf

end Function
end MacroStubs
