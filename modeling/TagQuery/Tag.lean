import TagQuery.OrderedMap.Basic

namespace TagQuery

/-- New values of labels; a label without one is to be cleared. -/
abbrev Assignments := OrderedMap String (Option String)

/-- The labels of one record. A label may be held without a value. -/
structure Tag where
  fields : OrderedMap String (Option String)
deriving DecidableEq

namespace Tag

def empty : Tag := ⟨∅⟩

instance : EmptyCollection Tag := ⟨empty⟩

def insert (tag : Tag) (label : String) (value : Option String) : Tag :=
  ⟨tag.fields.insert label value⟩

def set (tag : Tag) (label value : String) : Tag := tag.insert label (some value)

def setNull (tag : Tag) (label : String) : Tag := tag.insert label none

def erase (tag : Tag) (label : String) : Tag := ⟨tag.fields.erase label⟩

def entry? (tag : Tag) (label : String) : Option (Option String) := tag.fields.get? label

/-- The value of a label; a label held without one reads like a missing label. -/
def get? (tag : Tag) (label : String) : Option String := (tag.entry? label).join

def contains (tag : Tag) (label : String) : Bool := tag.fields.contains label

def labels (tag : Tag) : List String := tag.fields.keys

def toList (tag : Tag) : List (String × Option String) := tag.fields.entries

def size (tag : Tag) : Nat := tag.fields.size

def isEmpty (tag : Tag) : Bool := tag.fields.isEmpty

def assign (tag : Tag) (label : String) : Option String → Tag
  | some value => tag.set label value
  | none => tag.erase label

def apply (tag : Tag) (changes : Assignments) : Tag :=
  changes.entries.foldl (fun tag change => tag.assign change.1 change.2) tag

def ofList (pairs : List (String × String)) : Tag :=
  pairs.foldl (fun tag pair => tag.set pair.1 pair.2) empty

end Tag

end TagQuery
