import TagQuery.Proofs.Token.Lexed
import TagQuery.Query.OfText

namespace TagQuery

def FailsBySyntax {α : Type} (outcome : Except QueryError α) : Prop :=
  ∀ cause, outcome = .error cause → cause.isSyntaxError

namespace FailsBySyntax

variable {α β : Type}

theorem ok (value : α) : FailsBySyntax (.ok value) := by
  intro cause failed
  cases failed

theorem error {cause : QueryError} (syntactic : cause.isSyntaxError) :
    FailsBySyntax (.error cause : Except QueryError α) := by
  intro other same
  cases same
  exact syntactic

theorem map {outcome : Except QueryError α} (reading : FailsBySyntax outcome) (change : α → β) :
    FailsBySyntax (outcome.map change) := by
  cases outcome with
  | ok value => exact ok (change value)
  | error cause => exact error (reading cause rfl)

theorem andThen {first : Parsed α} {next : α → List Token → Parsed β}
    (reading : FailsBySyntax first.outcome)
    (onward : ∀ value, FailsBySyntax (next value first.rest).outcome) :
    FailsBySyntax (first.andThen next).outcome := by
  unfold Parsed.andThen
  split
  · exact onward _
  · rename_i cause failed
    exact error (reading cause failed)

end FailsBySyntax

theorem classifyFrom_failsBySyntax (position : Nat) (input : List Char) :
    FailsBySyntax (classifyFrom position input) := by
  induction input generalizing position with
  | nil => exact .ok []
  | cons c rest ih =>
    rw [classifyFrom]
    cases CharClass.ofChar? c with
    | none => exact .error rfl
    | some charClass => exact (ih (position + 1)).map _

namespace Lexeme

variable (position : Nat) (input : List Char)

theorem readInteger_failsBySyntax : FailsBySyntax (readInteger position input) := by
  unfold readInteger
  dsimp only
  split
  · exact .ok _
  · exact .error rfl

theorem readCollection_failsBySyntax (opener : CharClass) :
    FailsBySyntax (readCollection opener position input) := by
  unfold readCollection
  dsimp only
  split
  · exact .ok _
  · exact .error rfl

theorem ofPairs_failsBySyntax (target : Target) (ending : PairsEnd) :
    FailsBySyntax (ofPairs position input target ending) := by
  cases ending with
  | closed stop => exact .ok _
  | unterminated | unexpected place rest => exact .error rfl

theorem readStrictTarget_failsBySyntax : FailsBySyntax (readStrictTarget position input) := by
  unfold readStrictTarget
  split
  · dsimp only
    split
    · exact .error rfl
    · exact ofPairs_failsBySyntax position input _ _
  · exact .error rfl

theorem read_failsBySyntax (charClass : CharClass) : FailsBySyntax (read position charClass input) := by
  cases charClass with
  | letter | escape | terminator => exact .ok _
  | digit => exact readInteger_failsBySyntax position input
  | openParen => exact readCollection_failsBySyntax position input .openParen
  | openBracket => exact readCollection_failsBySyntax position input .openBracket
  | openBrace => exact ofPairs_failsBySyntax position input _ _
  | ampersand => exact readStrictTarget_failsBySyntax position input
  | _ => exact .error rfl

end Lexeme

theorem tokensFrom_failsBySyntax (position : Nat) (input : List Char) :
    FailsBySyntax (tokensFrom position input) := by
  fun_induction tokensFrom position input with
  | case1 => exact .ok []
  | case2 => exact .error rfl
  | case3 _ _ _ _ ih => exact ih
  | case4 position c rest charClass _ _ error failed =>
    exact .error (Lexeme.read_failsBySyntax position (c :: rest) charClass error failed)
  | case5 _ _ _ _ _ _ _ _ ih => exact ih.map _

theorem tokenize_failsBySyntax (text : String) : FailsBySyntax (tokenize text) := by
  unfold tokenize
  split
  · rename_i cause failed
    exact .error (classifyFrom_failsBySyntax 0 text.toList cause failed)
  · exact tokensFrom_failsBySyntax 0 text.toList

theorem QueryError.expecting_isSyntaxError (expected : String) (stop : Nat) (tokens : List Token) :
    (expecting expected stop tokens).isSyntaxError := by
  cases tokens <;> rfl

theorem Assignments.addItems_failsBySyntax (position : Nat) (assignments : Assignments)
    (items : List String) : FailsBySyntax (addItems position assignments items) := by
  fun_induction addItems position assignments items with
  | case1 => exact .ok _
  | case2 => exact .error rfl
  | case3 _ _ _ _ _ _ ih => exact ih

theorem Assignments.ofItems_failsBySyntax (position : Nat) (items : List String) :
    FailsBySyntax (ofItems position items) := by
  unfold ofItems
  split
  · exact .error rfl
  · exact addItems_failsBySyntax position ∅ items

namespace Query

open QueryError

variable (stop : Nat)

theorem parseCommand_failsBySyntax (tokens : List Token) :
    FailsBySyntax (parseCommand stop tokens).outcome := by
  unfold parseCommand
  split
  · split
    · exact .ok _
    · exact .error rfl
  · exact .ok _
  · exact .error rfl
  · exact .error rfl

theorem parseSubject_failsBySyntax (command : Command) (tokens : List Token) :
    FailsBySyntax (parseSubject stop command tokens).outcome := by
  unfold parseSubject
  split
  · exact .ok _
  · exact .error (expecting_isSyntaxError _ _ _)
  · exact (Assignments.ofItems_failsBySyntax _ _).map _
  · exact .ok _
  · exact .error (expecting_isSyntaxError _ _ _)

theorem parseConditions_failsBySyntax (conditions : Conditions) (tokens : List Token) :
    FailsBySyntax (parseConditions stop conditions tokens).outcome := by
  fun_induction parseConditions stop conditions tokens with
  | case1 | case2 => exact .ok _
  | case3 | case5 =>
    rename_i ih
    exact ih
  | case4 | case6 | case7 | case8 => exact .error (expecting_isSyntaxError _ _ _)

theorem parseTokens_failsBySyntax (tokens : List Token) :
    FailsBySyntax (parseTokens stop tokens).outcome := by
  apply FailsBySyntax.andThen (parseCommand_failsBySyntax stop tokens)
  intro command
  apply FailsBySyntax.andThen (parseSubject_failsBySyntax stop command _)
  intro subject
  split
  · exact .ok _
  · apply FailsBySyntax.andThen (parseConditions_failsBySyntax stop {} _)
    intro conditions
    exact .ok _

theorem parseAllTokens_failsBySyntax (tokens : List Token) :
    FailsBySyntax (parseAllTokens stop tokens).outcome := by
  fun_induction parseAllTokens stop tokens with
  | case1 => exact .ok []
  | case2 tokens token rest begun cause unread read =>
    have syntactic := parseTokens_failsBySyntax stop (token :: rest) cause
    rw [read] at syntactic
    exact .error (syntactic rfl)
  | case3 tokens token rest begun query unread read shorter ih =>
    apply ih.andThen
    intro queries
    exact .ok _

theorem parseAll_failsBySyntax (text : String) : FailsBySyntax (parseAll text) := by
  unfold parseAll
  split
  · rename_i cause failed
    exact .error (tokenize_failsBySyntax text cause failed)
  · exact parseAllTokens_failsBySyntax _ _

end Query

end TagQuery
