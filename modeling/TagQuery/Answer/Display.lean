import TagQuery.Answer.Basic

namespace TagQuery.Answer

def addHeader (headers : List String) (label : String) : List String :=
  if label ∈ headers then headers else headers ++ [label]

/-- The labels asked for, or all labels in the order in which the entries bring them. -/
def headers (answer : Answer) : List String :=
  if answer.columns = [] then (answer.entries.flatMap (·.tag.labels)).foldl addHeader []
  else answer.columns

def nullCell : String := "-"

def entryCells (headers : List String) (entry : Entry) : List String :=
  entry.id.path :: headers.map fun label => (entry.tag.get? label).getD nullCell

def propertyCells? : Item → Option (List String)
  | .entry _ => none
  | .property name value => some [name, value.display]

/-- The cells of the table, its heading first: those of the entries, or those of the properties
    where there is no entry. -/
def cells (answer : Answer) : List (List String) :=
  if answer.entries = [] then ["property", "value"] :: answer.items.filterMap propertyCells?
  else ("id" :: answer.headers) :: answer.entries.map (entryCells answer.headers)

/-- The cells as `render` lays them out. -/
def table (render : List (List String) → String) (answer : Answer) : String :=
  if answer.isEmpty then "(no results)" else render answer.cells

end TagQuery.Answer
