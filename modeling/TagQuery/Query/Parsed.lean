import TagQuery.Error
import TagQuery.Token.Basic

namespace TagQuery

namespace QueryError

def expecting (expected : String) (stop : Nat) : List Token → QueryError
  | [] => unexpectedToken expected "end of input" stop
  | token :: _ => unexpectedToken expected token.kind.describe token.position

end QueryError

/-- What reading tokens comes to: a value or an error, and the tokens that were not read. -/
structure Parsed (α : Type) where
  outcome : Except QueryError α
  rest : List Token

namespace Parsed

variable {α β : Type}

def ok (value : α) (rest : List Token) : Parsed α := ⟨.ok value, rest⟩

def error (cause : QueryError) (rest : List Token) : Parsed α := ⟨.error cause, rest⟩

def andThen (first : Parsed α) (next : α → List Token → Parsed β) : Parsed β :=
  match first.outcome with
  | .ok value => next value first.rest
  | .error cause => error cause first.rest

section Fields

variable (value : α) (cause : QueryError) (rest : List Token) (next : α → List Token → Parsed β)

@[simp] theorem outcome_ok : (ok value rest).outcome = .ok value := rfl

@[simp] theorem rest_ok : (ok value rest).rest = rest := rfl

@[simp] theorem outcome_error : (error cause rest : Parsed α).outcome = .error cause := rfl

@[simp] theorem rest_error : (error cause rest : Parsed α).rest = rest := rfl

@[simp] theorem andThen_ok : (ok value rest).andThen next = next value rest := rfl

@[simp] theorem andThen_error : (error cause rest).andThen next = error cause rest := rfl

end Fields

theorem andThen_rest_suffix {first : Parsed α} {next : α → List Token → Parsed β}
    (onward : ∀ value, (next value first.rest).rest <:+ first.rest) :
    (first.andThen next).rest <:+ first.rest := by
  unfold andThen
  split
  · exact onward _
  · exact List.suffix_rfl

end Parsed

end TagQuery
