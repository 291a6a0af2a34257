import TagQuery.Answer.Basic
import TagQuery.Json.Record

namespace TagQuery.Answer

namespace Entry

def toJson (entry : Entry) : Json := .object [("id", entry.id.toJson), ("tag", entry.tag.toJson)]

def ofJson? (json : Json) : Option Entry := do
  let fields ← json.structure? ["id", "tag"]
  let id ← Json.required? RecordId.ofJson? fields "id"
  let tag ← Json.required? Tag.ofJson? fields "tag"
  return { id, tag }

end Entry

namespace Item

def toJson : Item → Json
  | .entry found => found.toJson
  | .property name value => .object [("property", .string name), ("value", value.toJson)]

/-- A property is always written by field names. -/
def propertyOfJson? : Json → Option Item
  | .object fields => do
    let name ← Json.required? Json.string? fields "property"
    let value ← Json.required? PropertyValue.ofJson? fields "value"
    return .property name value
  | _ => none

/-- What reads as an entry is one, also where it has the fields of a property as well. -/
def ofJson? (json : Json) : Option Item :=
  ((Entry.ofJson? json).map .entry).or (propertyOfJson? json)

end Item

namespace Counts

def toJson (counts : Counts) : Json :=
  .object [("records_scanned", .ofNat counts.scanned), ("records_matched", .ofNat counts.matched),
    ("records_changed", .ofNat counts.changed)]

def ofJson? (json : Json) : Option Counts := do
  let fields ← json.structure? ["records_scanned", "records_matched", "records_changed"]
  let scanned ← Json.required? Json.count? fields "records_scanned"
  let matched ← Json.required? Json.count? fields "records_matched"
  let changed ← Json.required? Json.count? fields "records_changed"
  return { scanned, matched, changed }

end Counts

def itemsToJson (answer : Answer) : Json := .array (answer.items.map Item.toJson)

def itemsText (write : Json → String) (answer : Answer) : String := write answer.itemsToJson

def toJson (answer : Answer) : Json :=
  .object <| ("result_set", answer.itemsToJson) ::
    (if answer.columns = [] then [] else [("columns", Json.ofStrings answer.columns)]) ++
    [("changed", .array (answer.changed.map RecordId.toJson)), ("stats", answer.counts.toJson)]

def ofJson? (json : Json) : Option Answer := do
  let fields ← json.structure? ["result_set", "columns", "changed", "stats"]
  let items ← Json.required? (Json.list? Item.ofJson?) fields "result_set"
  let columns ← Json.withDefault? (Json.list? Json.string?) fields "columns" []
  let changed ← Json.required? (Json.list? RecordId.ofJson?) fields "changed"
  let counts ← Json.required? Counts.ofJson? fields "stats"
  return { items, columns, changed, counts }

end TagQuery.Answer
