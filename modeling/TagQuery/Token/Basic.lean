import TagQuery.Query.Basic

namespace TagQuery

inductive WordKind where
  | command
  | condition
  | generic
deriving DecidableEq

namespace WordKind

def ofWord (word : String) : WordKind :=
  match Text.lower word with
  | "select" | "update" | "delete" | "show" => command
  | "where" | "limit" => condition
  | _ => generic

end WordKind

inductive TokenKind where
  | word (kind : WordKind) (text : String)
  | integer (value : UInt64)
  | collection (items : List String)
  | target (target : Target)
  | terminator
deriving DecidableEq

namespace TokenKind

def describe : TokenKind → String
  | word .command text => "command '" ++ text ++ "'"
  | word .condition text => "condition '" ++ text ++ "'"
  | word .generic text => "word '" ++ text ++ "'"
  | integer value => "integer " ++ toString value.toNat
  | collection _ => "collection"
  | target _ => "target"
  | terminator => "terminator"

end TokenKind

structure Token where
  kind : TokenKind
  position : Nat
deriving DecidableEq

namespace Token

def isTerminator (token : Token) : Bool := token.kind = .terminator

end Token

end TagQuery
