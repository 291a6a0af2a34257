import TagQuery.Error
import TagQuery.Query.Basic
import TagQuery.Text.Blank

namespace TagQuery.Assignments

/-- The label and the value of a `label=value` item, cut at its first equal sign. The sentinel
    clears the label. -/
def pair? (item : String) : Option (String × Option String) :=
  match item.toList.dropWhile (· ≠ '=') with
  | [] => none
  | _ :: right =>
    let label := Text.trim (item.toList.takeWhile (· ≠ '='))
    let value := String.ofList (Text.trim right)
    if label = [] then none
    else some (String.ofList label, if value = nullSentinel then none else some value)

def addItems (position : Nat) (assignments : Assignments) : List String → Except QueryError Assignments
  | [] => .ok assignments
  | item :: rest =>
    match pair? item with
    | none => .error (.invalidAssignment item position)
    | some (label, value) => addItems position (assignments.insert label value) rest

def ofItems (position : Nat) (items : List String) : Except QueryError Assignments :=
  if items = [] then .error (.invalidAssignment "" position) else addItems position ∅ items

end TagQuery.Assignments
