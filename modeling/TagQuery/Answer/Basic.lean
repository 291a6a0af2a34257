import TagQuery.PropertyValue
import TagQuery.Record

namespace TagQuery

namespace Answer

structure Entry where
  id : RecordId
  tag : Tag
deriving DecidableEq

inductive Item where
  | entry (entry : Entry)
  | property (name : String) (value : PropertyValue)

namespace Item

def entry? : Item → Option Entry
  | .entry found => some found
  | .property _ _ => none

def value? : Item → Option PropertyValue
  | .entry _ => none
  | .property _ value => some value

end Item

structure Counts where
  scanned : Nat := 0
  matched : Nat := 0
  changed : Nat := 0
deriving DecidableEq

end Answer

/-- What a query yields. `columns` are the labels it asked for, none if it asked for all. -/
structure Answer where
  items : List Answer.Item := []
  columns : List String := []
  changed : List RecordId := []
  counts : Answer.Counts := {}

namespace Answer

def empty : Answer := {}

def property (name : String) (value : PropertyValue) : Answer := { items := [.property name value] }

def size (answer : Answer) : Nat := answer.items.length

def isEmpty (answer : Answer) : Bool := answer.items.isEmpty

def changedCount (answer : Answer) : Nat := answer.changed.length

def entries (answer : Answer) : List Entry := answer.items.filterMap Item.entry?

def propertyValue? (answer : Answer) : Option PropertyValue := answer.items.findSome? Item.value?

end Answer

end TagQuery
