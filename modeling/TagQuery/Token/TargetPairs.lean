import TagQuery.CharClass.Basic
import TagQuery.Query.Basic
import TagQuery.Text.Blank

namespace TagQuery

structure TargetPair where
  label : String
  value : Requirement
  position : Nat
deriving DecidableEq

namespace TargetPair

def firstRepeated? (seen : List String) : List TargetPair → Option TargetPair
  | [] => none
  | pair :: rest =>
    if pair.label ∈ seen then some pair else firstRepeated? (pair.label :: seen) rest

def eagerTarget (pairs : List TargetPair) : Target :=
  .eager <| pairs.foldl
    (fun labels pair =>
      labels.insert pair.label (((labels.get? pair.label).getD ∅ : OrderedSet Requirement).insert pair.value))
    ∅

def strictTarget (pairs : List TargetPair) : Target :=
  .strict <| .ofList <| pairs.map fun pair => (pair.label, pair.value)

end TargetPair

inductive PairsEnd where
  | closed (stop : Nat)
  | unterminated
  | unexpected (position : Nat) (rest : List Char)
deriving DecidableEq

structure TargetPairs where
  pairs : List TargetPair
  ending : PairsEnd
deriving DecidableEq

namespace TargetPairs

def isPart : Char → Bool := hasClass CharClass.isPairPart

def readPair (position : Nat) (input : List Char) : Except PairsEnd (TargetPair × Nat) :=
  let key := input.takeWhile isPart
  match input.dropWhile isPart with
  | [] => .error .unterminated
  | '=' :: afterEqual =>
    if key = [] then .error (.unexpected position input)
    else
      let value := afterEqual.takeWhile isPart
      let length := key.length + 1 + value.length
      match afterEqual.dropWhile isPart with
      | [] => .error .unterminated
      | c :: rest =>
        if c = ',' ∨ c = '}' then
          .ok ({ label := String.ofList (Text.trim key)
                 value := .ofText (String.ofList (Text.trim value))
                 position }, length)
        else .error (.unexpected (position + length) (c :: rest))
  | stop => .error (.unexpected (position + key.length) stop)

def read (position : Nat) : List Char → TargetPairs
  | [] => ⟨[], .unterminated⟩
  | c :: rest =>
    if c = '}' then ⟨[], .closed (position + 1)⟩
    else if c = ',' ∨ hasClass (· = .whitespace) c then read (position + 1) rest
    else match readPair position (c :: rest) with
      | .error ending => ⟨[], ending⟩
      | .ok (pair, length) =>
        let others := read (position + length) (rest.drop (length - 1))
        ⟨pair :: others.pairs, others.ending⟩
termination_by input => input.length

end TargetPairs

end TagQuery
