import TagQuery.Query.Target
import TagQuery.Tag
import TagQuery.Text.Lower

namespace TagQuery

/-- What a query does. A leading word that names no command is kept as it was written. -/
inductive Command where
  | select
  | update
  | delete
  | showProperty
  | unknown (word : String)
deriving DecidableEq

namespace Command

def name : Command → String
  | select => "select"
  | update => "update"
  | delete => "delete"
  | showProperty => "show"
  | unknown word => word

def ofWord? (word : String) : Option Command :=
  match Text.lower word with
  | "select" => some select
  | "update" => some update
  | "delete" => some delete
  | "show" => some showProperty
  | _ => none

end Command

/-- What a query acts on: the labels to keep (all, if none is named), the labels to change, or a
    property of the store. -/
inductive Subject where
  | projection (labels : List String)
  | assignment (changes : Assignments)
  | property (name : String)
deriving DecidableEq

namespace Subject

def everything : Subject := projection []

def projectedLabels : Subject → List String
  | projection labels => labels
  | assignment _ | property _ => []

end Subject

/-- A limit of zero states none. -/
structure Query where
  command : Command
  subject : Subject
  target : Target := .everything
  limit : UInt64 := 0
deriving DecidableEq

namespace Query

def withTarget (query : Query) (target : Target) : Query := { query with target := target }

def withLimit (query : Query) (limit : UInt64) : Query := { query with limit := limit }

end Query

end TagQuery
