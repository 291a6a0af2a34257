import TagQuery.CharClass.Basic
import TagQuery.Error

namespace TagQuery

/-- Pairs every character with its class; a character that belongs to no class is an error. -/
def classifyFrom (position : Nat) : List Char → Except QueryError (List (Char × CharClass))
  | [] => .ok []
  | c :: rest =>
    match CharClass.ofChar? c with
    | none => .error (.unknownCharacter c position)
    | some charClass => (classifyFrom (position + 1) rest).map ((c, charClass) :: ·)

def classifyAll (text : String) : Except QueryError (List (Char × CharClass)) :=
  classifyFrom 0 text.toList

def classify (c : Char) : Except QueryError CharClass :=
  match CharClass.ofChar? c with
  | none => .error (.unknownCharacter c 0)
  | some charClass => .ok charClass

end TagQuery
