/-! # Lineages

The order in which a class and its ancestors are asked for an attribute: the class itself, then its
ancestors so that every class comes before its own bases and the bases of a class keep their order.
-/

namespace MacroStubs.Lineage

variable {α : Type} [BEq α]

/-- The first head that stands in no tail. -/
def nextHead? (lists : List (List α)) : Option α :=
  lists.findSome? fun l =>
    match l with
    | [] => none
    | head :: _ => if lists.all fun m => !m.tail.contains head then some head else none

/-- Merges lists so that each keeps its order; at most `n` names. -/
def merge : Nat → List (List α) → Option (List α)
  | 0, lists => if lists.all List.isEmpty then some [] else none
  | n + 1, lists =>
    if lists.all List.isEmpty then some []
    else
      match nextHead? lists with
      | none => none
      | some head =>
        (merge n (lists.map fun l =>
          match l with
          | [] => []
          | first :: rest => if first == head then rest else l)).map (head :: ·)

/-- The lineage of a class, given those of its bases. None if the bases contradict each other. -/
def ofBases? (cls : α) (bases : List α) (lineages : List (List α)) : Option (List α) :=
  let lists := lineages ++ [bases]
  (merge lists.flatten.length lists).map (cls :: ·)

end MacroStubs.Lineage
