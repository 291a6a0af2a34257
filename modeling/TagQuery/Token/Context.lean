import TagQuery.Error

namespace TagQuery

def contextLength : Nat := 24

def contextOf (rest : List Char) : String := String.ofList (rest.take contextLength)

namespace QueryError

def unexpectedAt (position : Nat) (rest : List Char) : QueryError :=
  unexpectedCharacter (match rest with | [] => "end of input" | c :: _ => String.singleton c)
    position (contextOf rest)

def unterminatedAt (expected : Char) (position : Nat) (rest : List Char) : QueryError :=
  unterminatedGrouping expected position (contextOf rest)

end QueryError

end TagQuery
