namespace TagQuery

inductive PropertyValue where
  | null
  | integer (value : Int64)
  | text (value : String)
  | list (items : List PropertyValue)

namespace PropertyValue

def isNull : PropertyValue → Bool
  | null => true
  | _ => false

def integer? : PropertyValue → Option Int64
  | integer value => some value
  | _ => none

def text? : PropertyValue → Option String
  | text value => some value
  | _ => none

def items? : PropertyValue → Option (List PropertyValue)
  | list items => some items
  | _ => none

def typeName : PropertyValue → String
  | null => "null"
  | integer _ => "integer"
  | text _ => "string"
  | list _ => "list"

mutual

/-- Lists are written flat, so the brackets of inner lists are lost. -/
def display : PropertyValue → String
  | null => "-"
  | integer value => toString value.toInt
  | text value => value
  | list items => displayItems items

def displayItems : List PropertyValue → String
  | [] => ""
  | [item] => item.display
  | item :: next :: rest => item.display ++ ", " ++ displayItems (next :: rest)

end

/-- A count, or the greatest integer where the count is beyond it. -/
def ofCount (count : Nat) : PropertyValue := integer (.ofNat (min count Int64.maxValue.toNatClampNeg))

def ofTexts (texts : List String) : PropertyValue := list (texts.map text)

def ofOption (value : Option PropertyValue) : PropertyValue := value.getD null

end PropertyValue

end TagQuery
