import MacroStubs.Proofs.Host.Writing

/-! # What built-in functions are made of

The built-in functions and the conversions of plain data read and fail, call what they are given, and one of
them prints. So they have every property of such steps. Each function is followed once; what a property says
does not matter.
-/

namespace MacroStubs

variable {σ : State} {host : Host} {w : World} {r : Reach} {P : (α : Type) → Run α → Prop}

namespace BuiltinCall

variable {v : Value} {arguments : List Value} {keywords : Table String Value}

theorem greatest_host (best : Value × Value) (entries : List (Value × Value)) :
    greatest { σ with host } best entries = greatest σ best entries := by
  induction entries generalizing best with
  | nil => rfl
  | cons e rest ih =>
    simp only [greatest, ih]
    rfl

variable (hP : r.hostless.Closed P)
include hP

theorem closed_checkKeywords (name : String) (known : List String) :
    P _ (checkKeywords name known keywords) := by
  rw [checkKeywords]
  split
  · exact hP.throw _
  · exact hP.pure _

theorem closed_special? (name : String) : P _ (special? r.hostless v name arguments) := by
  rw [special?]
  refine hP.bind_get (fun σ host => ?_) fun σ => ?_
  · simp only [Descriptor.special?_host]
    rfl
  · split
    · refine hP.bind (hP.ofExcept _) fun found => ?_
      split
      · exact hP.map (hP.call _ _ _) _
      · exact hP.pure _
    · exact hP.pure _

theorem closed_items : P _ (items v) := by
  rw [items]
  refine hP.bind_get (fun _ _ => rfl) fun σ => ?_
  split
  · exact hP.pure _
  · exact hP.throw _

theorem closed_truth : P _ (truth r.hostless v) := by
  rw [truth]
  refine hP.bind (closed_special? hP _) fun answer => ?_
  split
  · exact hP.pure _
  · refine hP.bind (closed_special? hP _) fun answer => ?_
    split
    · exact hP.pure _
    · exact hP.bind_get (fun _ _ => rfl) fun _ => hP.pure _

theorem closed_asText : P _ (asText w r.hostless v) := by
  rw [asText]
  refine hP.bind_get (fun σ host => ?_) fun σ => ?_
  · simp only [printedText_host]
    rfl
  · split
    · exact hP.pure _
    · refine hP.bind (closed_special? hP _) fun answer => ?_
      split
      · exact hP.pure _
      · exact hP.throw _
      · exact hP.ofExcept _

theorem closed_length : P _ (length r.hostless v) := by
  rw [length]
  refine hP.bind_get (fun _ _ => rfl) fun σ => hP.bind (closed_special? hP _) fun answer => ?_
  split
  · split
    · exact hP.throw _
    · exact hP.pure _
  · split
    · exact hP.pure _
    · exact hP.throw _
  · split
    · exact hP.pure _
    · exact hP.throw _

theorem closed_keyed (key : Option Value) (xs : List Value) :
    P _ (keyed r.hostless key xs) := by
  refine hP.mapM (fun x => ?_) xs
  split
  · exact hP.pure _
  · exact hP.pure _
  · exact hP.bind (hP.call _ _ _) fun _ => hP.pure _

theorem closed_sorted : P _ (sorted r.hostless v keywords) := by
  rw [sorted]
  exact hP.bind (closed_items hP) fun xs => hP.bind (closed_keyed hP _ _) fun entries =>
    hP.bind_get (fun _ _ => rfl) fun σ => hP.bind (hP.ofExcept _) fun _ => hP.pure _

/-- The greatest of some values, or that there is none. -/
theorem closed_greatest (xs : List Value) : P _ (do
    match ← keyed r.hostless (keywords.get? "key") xs with
    | [] =>
      match keywords.get? "default" with
      | some v => pure v
      | none => throw (.thrown { kind := "ValueError", message := "max() arg is an empty sequence" })
    | e :: rest => Run.ofExcept (greatest (← get) e rest) : Run Value) := by
  refine hP.bind (closed_keyed hP _ _) fun entries => ?_
  split
  · split
    · exact hP.pure _
    · exact hP.throw _
  · refine hP.bind_get (fun σ host => ?_) fun σ => hP.ofExcept _
    rw [greatest_host]

theorem closed_max : P _ (max r.hostless arguments keywords) := by
  unfold max
  extract_lets rest
  split
  · exact hP.bind (hP.throw _) fun _ => closed_greatest hP _
  · exact hP.bind (closed_items hP) fun _ => closed_greatest hP _
  · exact hP.bind (hP.pure _) fun _ => closed_greatest hP _

theorem closed_isInstance (classes : Value) : P _ (isInstance v classes) := by
  rw [isInstance]
  refine hP.bind_get (fun _ _ => rfl) fun σ => ?_
  split
  · exact hP.pure _
  · exact hP.throw _

theorem closed_print : P _ (print w r.hostless arguments keywords) :=
  hP.bind (hP.mapM (fun _ => closed_asText hP) _) fun _ => hP.bind (hP.print _) fun _ => hP.pure _

theorem closed_function (b : Builtin) :
    P _ (function w r.hostless b arguments keywords) := by
  rw [function.eq_def]
  split
  · exact closed_length hP
  · exact hP.throw _
  · exact closed_isInstance hP _
  · exact hP.throw _
  · exact hP.throw _
  · exact hP.throw _
  · exact hP.bind (closed_checkKeywords hP _ _) fun _ => closed_print hP
  · exact hP.bind (closed_items hP) fun _ => hP.bind (closed_checkKeywords hP _ _) fun _ => closed_sorted hP
  · exact hP.throw _
  · exact hP.throw _
  · refine hP.bind (closed_checkKeywords hP _ _) fun _ => ?_
    split
    · exact hP.throw _
    · exact closed_max hP

theorem closed_asInt : P _ (asInt w r.hostless v) := by
  rw [asInt]
  refine hP.bind_get (fun σ host => ?_) fun σ => ?_
  · simp only [printedText_host]
    rfl
  · split
    · exact hP.pure _
    · exact hP.map (hP.ofExcept _) _
    · split
      · split
        · exact hP.throw _
        · exact hP.pure _
      · exact hP.bind (hP.ofExcept _) fun _ => hP.throw _
    · refine hP.bind (closed_special? hP _) fun answer => ?_
      split
      · exact hP.pure _
      · refine hP.bind (closed_special? hP _) fun answer => ?_
        split
        · exact hP.pure _
        · split
          · exact hP.pure _
          · exact hP.throw _

theorem closed_asFloat : P _ (asFloat w r.hostless v) := by
  unfold asFloat
  split
  · exact hP.pure _
  · exact hP.pure _
  · split
    · exact hP.pure _
    · refine hP.bind_get (fun σ host => ?_) fun σ => hP.bind (hP.ofExcept _) fun _ => hP.throw _
      simp only [printedText_host]
  · exact hP.bind_get (fun _ _ => rfl) fun σ => hP.throw _

theorem closed_convert? (name : String) :
    P _ (convert? w r.hostless name arguments keywords) := by
  rw [convert?.eq_def]
  refine hP.bind_get (fun _ _ => rfl) fun σ => ?_
  dsimp only
  -- an alternative that does not fit shall fail before it opens the steps
  split <;> first
    | with_reducible exact hP.pure _
    | with_reducible exact hP.map (closed_asInt hP) _
    | with_reducible exact hP.map (closed_asFloat hP) _
    | with_reducible exact hP.map (closed_truth hP) _
    | with_reducible exact hP.map (closed_asText hP) _
    | with_reducible exact hP.map (closed_items hP) _
    | with_reducible exact hP.bind (hP.ofExcept _) fun _ => hP.pure _
    | with_reducible exact hP.bind (closed_checkKeywords hP _ _) fun _ => hP.throw _
    | exact hP.throw _
    | skip
  all_goals
    repeat' split
    all_goals first | exact hP.pure _ | exact hP.throw _

end BuiltinCall
end MacroStubs
