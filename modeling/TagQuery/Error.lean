import TagQuery.Text.Quoted

namespace TagQuery

/-- Why a text is no query, or a query cannot be answered. Positions count characters from zero;
    `near` is the text from the position on. -/
inductive QueryError where
  | unknownCharacter (found : Char) (position : Nat)
  | unterminatedGrouping (expected : Char) (position : Nat) (near : String)
  | expectedInteger (found : String) (position : Nat)
  | unexpectedCharacter (found : String) (position : Nat) (near : String)
  | unexpectedToken (expected found : String) (position : Nat)
  | missingCommand (position : Nat)
  | unknownCommand (command : String)
  | unknownProperty (property : String)
  | duplicateStrictKey (label : String) (position : Nat)
  | invalidAssignment (item : String) (position : Nat)
deriving DecidableEq

namespace QueryError

def message : QueryError → String
  | unknownCharacter found position =>
    "unknown character " ++ Text.quotedChar found ++ " at position " ++ toString position
  | unterminatedGrouping expected position near =>
    "unterminated grouping at position " ++ toString position ++ ": expected '" ++
      String.singleton expected ++ "' near: " ++ near
  | expectedInteger found position =>
    "expected integer at position " ++ toString position ++ ", found " ++ Text.quoted found
  | unexpectedCharacter found position near =>
    "unexpected token '" ++ found ++ "' at position " ++ toString position ++ " near: " ++ near
  | unexpectedToken expected found position =>
    "expected " ++ expected ++ " but found " ++ found ++ " at position " ++ toString position
  | missingCommand position => "missing command at position " ++ toString position
  | unknownCommand command => "unknown command: " ++ command
  | unknownProperty property => "unknown property: " ++ property
  | duplicateStrictKey label position =>
    "duplicate key " ++ Text.quoted label ++ " in strict target at position " ++ toString position
  | invalidAssignment item position =>
    "invalid assignment " ++ Text.quoted item ++ " at position " ++ toString position ++
      ": expected label=value"

def position? : QueryError → Option Nat
  | unknownCharacter _ position | unterminatedGrouping _ position _ | expectedInteger _ position
  | unexpectedCharacter _ position _ | unexpectedToken _ _ position | missingCommand position
  | duplicateStrictKey _ position | invalidAssignment _ position => some position
  | unknownCommand _ | unknownProperty _ => none

def isSyntaxError : QueryError → Bool
  | unknownCommand _ | unknownProperty _ => false
  | _ => true

end QueryError

inductive Error where
  | query (cause : QueryError)
  | recordNotFound (path : String)
  | storage (reason : String)
  | internal (reason : String)
deriving DecidableEq

namespace Error

def message : Error → String
  | query cause => "Query error: " ++ cause.message
  | recordNotFound path => "Record not found: " ++ path
  | storage reason => "Storage error: " ++ reason
  | internal reason => "Internal error: " ++ reason

def isRecoverable : Error → Bool
  | recordNotFound _ | storage _ => true
  | query _ | internal _ => false

end Error

end TagQuery
