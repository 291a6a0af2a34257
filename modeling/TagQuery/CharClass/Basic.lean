namespace TagQuery

inductive CharClass where
  | letter
  | escape
  | digit
  | whitespace
  | comma
  | equal
  | ampersand
  | wildcard
  | openParen
  | closeParen
  | openBracket
  | closeBracket
  | openBrace
  | closeBrace
  | terminator
deriving DecidableEq

namespace CharClass

def ofChar? (c : Char) : Option CharClass :=
  if c.isAlpha ∨ c = '_' ∨ c = '/' ∨ c = '.' ∨ c = '~' ∨ c = '-' then some letter
  else if c.isDigit then some digit
  else match c with
    | '\\' => some escape
    | ' ' | '\t' | '\r' | '\n' => some whitespace
    | ',' => some comma
    | '=' => some equal
    | '&' => some ampersand
    | '*' => some wildcard
    | '(' => some openParen
    | ')' => some closeParen
    | '[' => some openBracket
    | ']' => some closeBracket
    | '{' => some openBrace
    | '}' => some closeBrace
    | ';' => some terminator
    | _ => none

def isWord : CharClass → Bool
  | letter | escape => true
  | _ => false

def isGrouping : CharClass → Bool
  | openParen | closeParen | openBracket | closeBracket | openBrace | closeBrace => true
  | _ => false

def closer? : CharClass → Option CharClass
  | openParen => some closeParen
  | openBracket => some closeBracket
  | openBrace => some closeBrace
  | _ => none

def isWordPart : CharClass → Bool
  | letter | escape | digit => true
  | _ => false

def isPairPart : CharClass → Bool
  | letter | escape | digit | whitespace => true
  | _ => false

/-- The inside of a collection goes on up to the next grouping character or terminator. -/
def isCollectionPart (charClass : CharClass) : Bool :=
  !charClass.isGrouping && charClass != terminator

def isItemPart (charClass : CharClass) : Bool := charClass.isCollectionPart && charClass != comma

end CharClass

def hasClass (property : CharClass → Bool) (c : Char) : Bool := (CharClass.ofChar? c).any property

end TagQuery
