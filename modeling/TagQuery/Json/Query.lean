import TagQuery.Json.Record
import TagQuery.Query.Basic

namespace TagQuery

namespace Command

def toJson : Command → Json
  | select => .string "Select"
  | update => .string "Update"
  | delete => .string "Delete"
  | showProperty => .string "Show"
  | unknown word => .object [("Unknown", .string word)]

def ofJson? (json : Json) : Option Command :=
  match json.variant? with
  | some ("Select", content) => if Json.isUnit content then some select else none
  | some ("Update", content) => if Json.isUnit content then some update else none
  | some ("Delete", content) => if Json.isUnit content then some delete else none
  | some ("Show", content) => if Json.isUnit content then some showProperty else none
  | some ("Unknown", some content) => content.string?.map unknown
  | _ => none

end Command

namespace Requirement

def toJson : Requirement → Json
  | absent => .string "Absent"
  | text value => .object [("Value", .string value)]

def ofJson? (json : Json) : Option Requirement :=
  match json.variant? with
  | some ("Absent", content) => if Json.isUnit content then some absent else none
  | some ("Value", some content) => content.string?.map text
  | _ => none

end Requirement

namespace Target

def valuesToJson (values : OrderedSet Requirement) : Json :=
  .array (values.toList.map Requirement.toJson)

def valuesOfJson? (json : Json) : Option (OrderedSet Requirement) :=
  (json.list? Requirement.ofJson?).map .ofList

def toJson : Target → Json
  | eager labels =>
    .object [("Eager", .object (labels.entries.map fun entry => (entry.1, valuesToJson entry.2)))]
  | strict labels =>
    .object [("Strict", .object (labels.entries.map fun entry => (entry.1, entry.2.toJson)))]

def ofJson? (json : Json) : Option Target :=
  match json.variant? with
  | some ("Eager", some content) => (content.fields? valuesOfJson?).map fun labels => eager (.ofList labels)
  | some ("Strict", some content) =>
    (content.fields? Requirement.ofJson?).map fun labels => strict (.ofList labels)
  | _ => none

end Target

namespace Subject

def toJson : Subject → Json
  | projection labels => .object [("Projection", .ofStrings labels)]
  | assignment changes => .object [("Assignment", changes.toJson)]
  | property name => .object [("Property", .string name)]

def ofJson? (json : Json) : Option Subject :=
  match json.variant? with
  | some ("Projection", some content) => (content.list? Json.string?).map projection
  | some ("Assignment", some content) => (Assignments.ofJson? content).map assignment
  | some ("Property", some content) => content.string?.map property
  | _ => none

end Subject

namespace Query

def toJson (query : Query) : Json :=
  .object [("command", query.command.toJson), ("subject", query.subject.toJson),
    ("target", query.target.toJson), ("limit", .ofNat query.limit.toNat)]

def ofJson? (json : Json) : Option Query := do
  let fields ← json.structure? ["command", "subject", "target", "limit"]
  let command ← Json.required? Command.ofJson? fields "command"
  let subject ← Json.required? Subject.ofJson? fields "subject"
  let target ← Json.required? Target.ofJson? fields "target"
  let limit ← Json.required? Json.uint64? fields "limit"
  return { command, subject, target, limit }

end Query

end TagQuery
