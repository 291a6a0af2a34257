import TagQuery.Token.Basic
import TagQuery.Token.Collection
import TagQuery.Token.Context
import TagQuery.Token.TargetPairs

namespace TagQuery

structure Lexeme where
  kind : TokenKind
  length : Nat
deriving DecidableEq

namespace Lexeme

def wordRun (input : List Char) : List Char := input.takeWhile (hasClass CharClass.isWordPart)

/-- A space right behind a word is read with it. -/
def readWord (input : List Char) : Lexeme :=
  let run := wordRun input
  let word := String.ofList run
  ⟨.word (.ofWord word) word, if input[run.length]? = some ' ' then run.length + 1 else run.length⟩

def decimalValue (digits : List Char) : Nat :=
  digits.foldl (fun value digit => 10 * value + (digit.toNat - '0'.toNat)) 0

def readInteger (position : Nat) (input : List Char) : Except QueryError Lexeme :=
  let run := wordRun input
  if run.all Char.isDigit ∧ decimalValue run < UInt64.size then
    .ok ⟨.integer (.ofNat (decimalValue run)), run.length⟩
  else .error (.expectedInteger (String.ofList run) position)

def closerOf (opener : CharClass) : CharClass := opener.closer?.getD .closeParen

def readCollection (opener : CharClass) (position : Nat) (input : List Char) : Except QueryError Lexeme :=
  let expected := if closerOf opener = .closeBracket then ']' else ')'
  match Collection.read (closerOf opener) (input.drop 1) with
  | some (items, taken) => .ok ⟨.collection items, taken + 1⟩
  | none => .error (.unterminatedAt expected position input)

def ofPairs (position : Nat) (input : List Char) (target : Target) (ending : PairsEnd) :
    Except QueryError Lexeme :=
  match ending with
  | .closed stop => .ok ⟨.target target, stop - position⟩
  | .unterminated => .error (.unterminatedAt '}' position input)
  | .unexpected place rest => .error (.unexpectedAt place rest)

def readEagerTarget (position : Nat) (input : List Char) : Except QueryError Lexeme :=
  let read := TargetPairs.read (position + 1) (input.drop 1)
  ofPairs position input (TargetPair.eagerTarget read.pairs) read.ending

/-- A label given twice is reported before whatever is wrong further on. -/
def readStrictTarget (position : Nat) (input : List Char) : Except QueryError Lexeme :=
  match input.drop 1 with
  | '{' :: inside =>
    let read := TargetPairs.read (position + 2) inside
    match TargetPair.firstRepeated? [] read.pairs with
    | some pair => .error (.duplicateStrictKey pair.label pair.position)
    | none => ofPairs position input (TargetPair.strictTarget read.pairs) read.ending
  | rest => .error (.unexpectedAt (position + 1) rest)

def read (position : Nat) (charClass : CharClass) (input : List Char) : Except QueryError Lexeme :=
  match charClass with
  | .letter | .escape => .ok (readWord input)
  | .digit => readInteger position input
  | .openParen | .openBracket => readCollection charClass position input
  | .openBrace => readEagerTarget position input
  | .ampersand => readStrictTarget position input
  | .terminator => .ok ⟨.terminator, 1⟩
  | _ => .error (.unexpectedAt position input)

end Lexeme

end TagQuery
