import TagQuery.CharClass.OfText
import TagQuery.Token.Lexeme

namespace TagQuery

def tokensFrom (position : Nat) : List Char → Except QueryError (List Token)
  | [] => .ok []
  | c :: rest =>
    match CharClass.ofChar? c with
    | none => .error (.unknownCharacter c position)
    | some .whitespace => tokensFrom (position + 1) rest
    | some charClass =>
      match Lexeme.read position charClass (c :: rest) with
      | .error error => .error error
      | .ok lexeme =>
        (tokensFrom (position + lexeme.length) (rest.drop (lexeme.length - 1))).map
          (⟨lexeme.kind, position⟩ :: ·)
termination_by input => input.length

def tokenize (text : String) : Except QueryError (List Token) :=
  match classifyAll text with
  | .error error => .error error
  | .ok _ => tokensFrom 0 text.toList

end TagQuery
