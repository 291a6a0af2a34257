namespace TagQuery

/-- A JSON value. A number that is not written as an integer is kept as it was written. -/
inductive Json where
  | null
  | bool (value : Bool)
  | integer (value : Int)
  | decimal (written : String)
  | string (value : String)
  | array (items : List Json)
  | object (fields : List (String × Json))

namespace Json

instance : Inhabited Json := ⟨null⟩

def ofOption : Option String → Json
  | none => null
  | some value => string value

def ofStrings (values : List String) : Json := array (values.map string)

def ofNat (value : Nat) : Json := integer (Int.ofNat value)

def string? : Json → Option String
  | string value => some value
  | _ => none

def bool? : Json → Option Bool
  | bool value => some value
  | _ => none

def uint64? : Json → Option UInt64
  | integer value => if 0 ≤ value ∧ value < UInt64.size then some (.ofNat value.toNat) else none
  | _ => none

def count? (json : Json) : Option Nat := json.uint64?.map UInt64.toNat

def int64? : Json → Option Int64
  | integer value => if Int64.minValue.toInt ≤ value ∧ value ≤ Int64.maxValue.toInt then some (.ofInt value) else none
  | _ => none

def optional? {α : Type} (read : Json → Option α) : Json → Option (Option α)
  | null => some none
  | json => (read json).map some

def list? {α : Type} (read : Json → Option α) : Json → Option (List α)
  | array items => items.mapM read
  | _ => none

def fields? {α : Type} (read : Json → Option α) : Json → Option (List (String × α))
  | object fields => fields.mapM fun field => (read field.2).map (field.1, ·)
  | _ => none

/-- The fields of a structure, written by name in an object or in their order in an array, which may
    end early. -/
def structure? (names : List String) : Json → Option (List (String × Json))
  | object fields => some fields
  | array items => if items.length ≤ names.length then some (names.zip items) else none
  | _ => none

/-- The constructor of a variant and what it holds: an object with one field, or the bare name of a
    variant that holds nothing. -/
def variant? : Json → Option (String × Option Json)
  | string name => some (name, none)
  | object [(name, content)] => some (name, some content)
  | _ => none

def isUnit : Option Json → Bool
  | none | some null => true
  | _ => false

end Json

/-- Of several fields with one name the last counts. -/
def Json.field? (fields : List (String × Json)) (name : String) : Option Json :=
  (fields.reverse.find? (·.1 = name)).map (·.2)

def Json.required? {α : Type} (read : Json → Option α) (fields : List (String × Json)) (name : String) :
    Option α :=
  (Json.field? fields name).bind read

/-- A field that has a default, which stands only where the field is missing. -/
def Json.withDefault? {α : Type} (read : Json → Option α) (fields : List (String × Json)) (name : String)
    (default : α) : Option α :=
  match Json.field? fields name with
  | none => some default
  | some json => read json

end TagQuery
