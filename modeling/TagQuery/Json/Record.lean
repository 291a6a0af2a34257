import TagQuery.Json.Basic
import TagQuery.PropertyValue
import TagQuery.Record

namespace TagQuery

namespace Assignments

def toJson (assignments : Assignments) : Json :=
  .object (assignments.entries.map fun entry => (entry.1, Json.ofOption entry.2))

def ofJson? (json : Json) : Option Assignments :=
  (json.fields? (Json.optional? Json.string?)).map .ofList

end Assignments

namespace Tag

def toJson (tag : Tag) : Json := Assignments.toJson tag.fields

def ofJson? (json : Json) : Option Tag := (Assignments.ofJson? json).map Tag.mk

end Tag

namespace RecordId

def toJson (id : RecordId) : Json := .string id.path

def ofJson? (json : Json) : Option RecordId := json.string?.map RecordId.mk

end RecordId

namespace Record

def toJson (record : Record) : Json :=
  .object [("id", record.id.toJson), ("tag", record.tag.toJson)]

def ofJson? (json : Json) : Option Record := do
  let fields ← json.structure? ["id", "tag"]
  let id ← Json.required? RecordId.ofJson? fields "id"
  let tag ← Json.required? Tag.ofJson? fields "tag"
  return { id, tag }

end Record

namespace PropertyValue

mutual

def toJson : PropertyValue → Json
  | null => .null
  | integer value => .integer value.toInt
  | text value => .string value
  | list items => .array (itemsToJson items)

def itemsToJson : List PropertyValue → List Json
  | [] => []
  | item :: items => item.toJson :: itemsToJson items

end

mutual

def ofJson? : Json → Option PropertyValue
  | .null => some null
  | .integer value => (Json.int64? (.integer value)).map integer
  | .string value => some (text value)
  | .array items => (itemsOfJson? items).map list
  | .bool _ | .decimal _ | .object _ => none

def itemsOfJson? : List Json → Option (List PropertyValue)
  | [] => some []
  | json :: rest =>
    match ofJson? json, itemsOfJson? rest with
    | some item, some items => some (item :: items)
    | _, _ => none

end

end PropertyValue

end TagQuery
