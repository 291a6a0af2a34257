import TagQuery.Query.Assignments
import TagQuery.Query.Parsed

namespace TagQuery.Query

def wildcard : String := "*"

def projectionOf (items : List String) : Subject :=
  if wildcard ∈ items then .everything else .projection items

def parseCommand (stop : Nat) : List Token → Parsed Command
  | ⟨.word .command word, position⟩ :: rest =>
    match Command.ofWord? word with
    | some command => .ok command rest
    | none => .error (.missingCommand position) rest
  | ⟨.word .generic word, _⟩ :: rest => .ok (.unknown word) rest
  | token :: rest => .error (.missingCommand token.position) rest
  | [] => .error (.missingCommand stop) []

def parseSubject (stop : Nat) (command : Command) (tokens : List Token) : Parsed Subject :=
  match command, tokens with
  | .showProperty, ⟨.word .generic name, _⟩ :: rest => .ok (.property name) rest
  | .showProperty, tokens => .error (.expecting "property name" stop tokens) (tokens.drop 1)
  | .update, ⟨.collection items, position⟩ :: rest =>
    ⟨(Assignments.ofItems position items).map .assignment, rest⟩
  | _, ⟨.collection items, _⟩ :: rest => .ok (projectionOf items) rest
  | _, tokens => .error (.expecting "collection" stop tokens) (tokens.drop 1)

structure Conditions where
  target : Option Target := none
  limit : Option UInt64 := none
deriving DecidableEq

def parseConditions (stop : Nat) (conditions : Conditions) : List Token → Parsed Conditions
  | [] => .ok conditions []
  | token :: rest =>
    match token.kind with
    | .terminator => .ok conditions (token :: rest)
    | .word .condition word =>
      if Text.lower word = "where" ∧ conditions.target = none then
        match rest with
        | ⟨.target target, _⟩ :: rest =>
          parseConditions stop { conditions with target := some target } rest
        | rest => .error (.expecting "target" stop rest) (rest.drop 1)
      else if Text.lower word = "limit" ∧ conditions.limit = none then
        match rest with
        | ⟨.integer limit, _⟩ :: rest =>
          parseConditions stop { conditions with limit := some limit } rest
        | rest => .error (.expecting "integer" stop rest) (rest.drop 1)
      else .error (.expecting "terminator" stop [token]) rest
    | _ => .error (.expecting "condition" stop [token]) rest

/-- Reads one query up to a terminator or the end of the tokens. A query that shows a property ends
    right after the name, whatever follows. -/
def parseTokens (stop : Nat) (tokens : List Token) : Parsed Query :=
  (parseCommand stop tokens).andThen fun command rest =>
    (parseSubject stop command rest).andThen fun subject rest =>
      if command = .showProperty then .ok { command, subject } rest
      else (parseConditions stop {} rest).andThen fun conditions rest =>
        .ok { command, subject
              target := conditions.target.getD .everything
              limit := conditions.limit.getD 0 } rest

theorem parseCommand_rest (stop : Nat) (token : Token) (rest : List Token) :
    (parseCommand stop (token :: rest)).rest = rest := by
  unfold parseCommand
  split <;> rename_i shape <;> cases shape
  · split <;> rfl
  · rfl
  · rfl

theorem parseSubject_rest (stop : Nat) (command : Command) (tokens : List Token) :
    (parseSubject stop command tokens).rest = tokens.drop 1 := by
  unfold parseSubject
  split <;> rfl

theorem parseConditions_rest_suffix (stop : Nat) (conditions : Conditions) (tokens : List Token) :
    (parseConditions stop conditions tokens).rest <:+ tokens := by
  fun_induction parseConditions stop conditions tokens with
  | case1 | case2 => exact List.suffix_rfl
  | case3 | case5 =>
    rename_i ih
    exact ih.trans ((List.suffix_cons _ _).trans (List.suffix_cons _ _))
  | case4 | case6 => exact (List.drop_suffix _ _).trans (List.suffix_cons _ _)
  | case7 | case8 => exact List.suffix_cons _ _

theorem parseTokens_rest_suffix (stop : Nat) (token : Token) (rest : List Token) :
    (parseTokens stop (token :: rest)).rest <:+ rest := by
  have afterCommand := parseCommand_rest stop token rest
  have all : (parseTokens stop (token :: rest)).rest <:+ (parseCommand stop (token :: rest)).rest := by
    refine Parsed.andThen_rest_suffix fun command => ?_
    have afterSubject := parseSubject_rest stop command (parseCommand stop (token :: rest)).rest
    refine List.IsSuffix.trans (Parsed.andThen_rest_suffix fun subject => ?_)
      (afterSubject ▸ List.drop_suffix 1 _)
    split
    · exact List.suffix_rfl
    · exact (Parsed.andThen_rest_suffix fun _ => List.suffix_rfl).trans
        (parseConditions_rest_suffix _ _ _)
  rwa [afterCommand] at all

def skipTerminators (tokens : List Token) : List Token := tokens.dropWhile Token.isTerminator

theorem unread_length_lt {stop : Nat} {tokens rest unread : List Token} {token : Token}
    {outcome : Except QueryError Query} (begun : skipTerminators tokens = token :: rest)
    (read : parseTokens stop (token :: rest) = ⟨outcome, unread⟩) : unread.length < tokens.length := by
  have taken := (parseTokens_rest_suffix stop token rest).length_le
  have skipped : (skipTerminators tokens).length ≤ tokens.length := (List.dropWhile_suffix _).length_le
  rw [read] at taken
  rw [begun] at skipped
  exact Nat.lt_of_le_of_lt taken skipped

def parseAllTokens (stop : Nat) (tokens : List Token) : Parsed (List Query) :=
  match begun : skipTerminators tokens with
  | [] => .ok [] []
  | token :: rest =>
    match read : parseTokens stop (token :: rest) with
    | ⟨.error cause, unread⟩ => .error cause unread
    | ⟨.ok query, unread⟩ =>
      have := unread_length_lt begun read
      (parseAllTokens stop unread).andThen fun queries unread => .ok (query :: queries) unread
termination_by tokens.length

theorem parseAllTokens_of_nil {stop : Nat} {tokens : List Token} (done : skipTerminators tokens = []) :
    parseAllTokens stop tokens = .ok [] [] := by
  rw [parseAllTokens]
  split
  · rfl
  · rename_i begun
    exact absurd (done.symm.trans begun) (List.cons_ne_nil _ _).symm

@[simp] theorem parseAllTokens_nil (stop : Nat) : parseAllTokens stop [] = .ok [] [] := parseAllTokens_of_nil rfl

theorem parseAllTokens_of_cons {stop : Nat} {tokens rest : List Token} {token : Token}
    (begun : skipTerminators tokens = token :: rest) :
    parseAllTokens stop tokens =
      (parseTokens stop (token :: rest)).andThen fun query unread =>
        (parseAllTokens stop unread).andThen fun queries unread => .ok (query :: queries) unread := by
  rw [parseAllTokens]
  split
  · rename_i done
    exact absurd (done.symm.trans begun) (List.cons_ne_nil _ _).symm
  · rename_i begun'
    cases begun'.symm.trans begun
    split <;> rename_i read <;> simp only [Parsed.andThen, read]

/-- The position after the last token, where a missing token is reported. Positions are words of 64
    bits, so that zero follows the greatest. -/
def stopOf (tokens : List Token) : Nat :=
  (tokens.getLast?.map fun token => (token.position + 1) % UInt64.size).getD 0

end TagQuery.Query
