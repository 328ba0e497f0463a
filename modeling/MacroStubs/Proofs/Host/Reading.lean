import MacroStubs.Proofs.Host.Blind
import MacroStubs.World.Call

/-! # Reading without a host

What is read of a state, and how its things print, does not depend on the host if what is called on the
way is blind to it. Most of this holds by computation; only what recurs has to be followed.
-/

namespace MacroStubs

variable {σ : State} {host : Host} {w : World} {r : Reach}

theorem Descriptor.get_host (raw : Value) (object : Option Value) (cls : Value) :
    Descriptor.get r.hostless { σ with host } raw object cls =
      Descriptor.get r.hostless σ raw object cls := by
  induction raw, object using Descriptor.get.induct σ cls with
  | case2 object id inner h ih =>
    rw [Descriptor.get, Descriptor.get, if_pos h]
    exact (if_pos h).trans ih
  | case3 object id inner h =>
    rw [Descriptor.get, Descriptor.get, if_neg h]
    exact if_neg h
  | case21 object v _ h => cases v <;> first | rfl | exact (h _ _ rfl).elim
  | _ => rfl

theorem Descriptor.special?_host (v : Value) (name : String) :
    Descriptor.special? r.hostless { σ with host } v name =
      Descriptor.special? r.hostless σ v name := by
  simp only [Descriptor.special?, Descriptor.get_host]
  rfl

namespace Registry

theorem firstHolding_host (name : Value) (classes : List ClassId) :
    firstHolding { σ with host } name classes = firstHolding σ name classes := by
  induction classes with
  | nil => rfl
  | cons c rest ih =>
    simp only [firstHolding, ih]
    rfl

theorem find?_host (c : ClassId) (name : Value) :
    Registry.find? { σ with host } c name = Registry.find? σ c name := by
  simp only [Registry.find?, firstHolding_host]
  rfl

end Registry

namespace Attribute

theorem ofObject?_host (v : Value) (name : String) :
    ofObject? r.hostless { σ with host } v name = ofObject? r.hostless σ v name := by
  simp only [ofObject?, Descriptor.get_host]
  rfl

theorem ofClass?_host (c : ClassId) (name : String) :
    ofClass? r.hostless { σ with host } c name = ofClass? r.hostless σ c name := by
  simp only [ofClass?, Descriptor.get_host]
  rfl

theorem ordinary_host (v : Value) (name : String) :
    ordinary w r.hostless { σ with host } v name = ordinary w r.hostless σ v name := by
  simp only [ordinary, ofModule, ofClass?_host, ofObject?_host, Descriptor.get_host,
    Descriptor.special?_host]
  rfl

theorem sought_host (c : ClassId) (name : Value) :
    sought r.hostless { σ with host } c name = sought r.hostless σ c name := by
  simp only [sought, Registry.find?_host]
  rfl

theorem viaMacro_host (seeker : Value) (c : ClassId) (name : String) :
    viaMacro r.hostless { σ with host } seeker c name = viaMacro r.hostless σ seeker c name := by
  simp only [viaMacro, sought_host]
  rfl

theorem step_host (v : Value) (name : String) :
    step w r.hostless { σ with host } v name = step w r.hostless σ v name := by
  simp only [step, viaHook, ordinary_host, viaMacro_host, Descriptor.get_host]
  rfl

theorem readIn_host (n : Nat) (v : Value) (name : String) :
    readIn w r.hostless { σ with host } n v name = readIn w r.hostless σ n v name := by
  induction n generalizing v name with
  | zero => rfl
  | succ n ih => simp only [readIn, step_host, ih]

theorem readThrough_host (v : Value) (name : String) :
    readThrough w r.hostless { σ with host } v name = readThrough w r.hostless σ v name :=
  readIn_host _ v name

end Attribute

namespace Members

theorem names_host (v : Value) : names r.hostless { σ with host } v = names r.hostless σ v := by
  simp only [names, Descriptor.special?_host]
  rfl

theorem readAll_host (source : Value) (names : List String) :
    readAll r.hostless { σ with host } source names = readAll r.hostless σ source names := by
  induction names with
  | nil => rfl
  | cons name rest ih =>
    simp only [readAll, ih]
    rfl

theorem routines_host (source : Value) :
    routines r.hostless { σ with host } source = routines r.hostless σ source := by
  simp only [routines, names_host, readAll_host]

end Members

theorem labels_host : labels w r.hostless { σ with host } = labels w r.hostless σ := by
  have htext (v : Value) : Printing.objectText r.hostless { σ with host } w.address v =
      Printing.objectText r.hostless σ w.address v := by
    simp only [Printing.objectText, Descriptor.get_host]
    rfl
  simp only [labels, funext htext]
  rfl

theorem printedText_host :
    printedText w r.hostless { σ with host } = printedText w r.hostless σ := by
  funext v
  rw [printedText, labels_host, printedText]

end MacroStubs
