import TagQuery.OrderedMap.Basic
import TagQuery.Query.Requirement

namespace TagQuery

inductive Target.Mode where
  | eager
  | strict
deriving DecidableEq

/-- Which records a query is about. An eager target asks that some label holds one of its values,
    a strict target that every label holds its value; an empty target asks nothing. -/
inductive Target where
  | eager (labels : OrderedMap String (OrderedSet Requirement))
  | strict (labels : OrderedMap String Requirement)
deriving DecidableEq

namespace Target

def everything : Target := eager ∅

instance : Inhabited Target := ⟨everything⟩

def mode : Target → Target.Mode
  | eager _ => .eager
  | strict _ => .strict

def isEmpty : Target → Bool
  | eager labels => labels.isEmpty
  | strict labels => labels.isEmpty

def size : Target → Nat
  | eager labels => labels.size
  | strict labels => labels.size

end Target

end TagQuery
