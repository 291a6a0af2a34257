import Mathlib.Data.List.TakeWhile
import TagQuery.Proofs.Query.OfText
import TagQuery.Proofs.Text.Runs
import TagQuery.Query.Stream

namespace TagQuery.Query

theorem buffer_nil_iff {kinds : List TokenKind} : Buffer [] kinds ↔ ∀ kind ∈ kinds, kind = .terminator := by
  induction kinds with
  | nil => exact ⟨fun _ => by simp, fun _ => .done⟩
  | cons kind rest ih =>
    rw [List.forall_mem_cons, ← ih]
    constructor
    · intro buffer
      cases buffer with
      | terminator others => exact ⟨rfl, others⟩
    · rintro ⟨rfl, others⟩
      exact .terminator others

section Reading

variable {text : String} {query : Query} {tokens rest : List Token} {token : Token} {cause : QueryError}

theorem buffer_single_iff {kinds : List TokenKind} :
    (Buffer [query] kinds ∧ ∀ kind ∈ kinds.head?, kind ≠ .terminator) ↔
      ∃ phrase others, kinds = phrase ++ others ∧ Phrase query phrase ∧ ∀ kind ∈ others, kind = .terminator := by
  constructor
  · rintro ⟨buffer, solid⟩
    cases buffer with
    | terminator => exact absurd rfl (solid _ rfl)
    | query read _ others => exact ⟨_, _, rfl, read, buffer_nil_iff.mp others⟩
  · rintro ⟨phrase, others, rfl, read, terminating⟩
    have ended : Ended others := fun kind first => terminating kind (List.mem_of_mem_head? first)
    refine ⟨.query read (.inr ended) (buffer_nil_iff.mpr terminating), ?_⟩
    obtain ⟨kind, after, rfl, solid⟩ := read.starts
    intro first begins
    cases begins
    exact solid

theorem parse_eq_ok_iff_parseAll :
    parse text = .ok query ↔ parseAll text = .ok [query] ∧
      ∀ tokens, tokenize text = .ok tokens → ∀ token ∈ tokens.head?, token.kind ≠ .terminator := by
  constructor
  · intro found
    obtain ⟨phrase, rest, read, stated, terminating⟩ := parse_eq_ok_iff.mp found
    have terminators : ∀ kind ∈ rest.map Token.kind, kind = .terminator := by simpa using terminating
    obtain ⟨buffer, solid⟩ := buffer_single_iff.mpr ⟨_, _, List.map_append, stated, terminators⟩
    refine ⟨parseAll_eq_ok_iff.mpr ⟨_, read, buffer⟩, fun tokens again token first => ?_⟩
    cases read.symm.trans again
    apply solid
    rw [List.head?_map, Option.mem_def.mp first]
    rfl
  · rintro ⟨found, solid⟩
    obtain ⟨tokens, read, buffer⟩ := parseAll_eq_ok_iff.mp found
    have begins : ∀ kind ∈ (tokens.map Token.kind).head?, kind ≠ .terminator := by
      rw [List.head?_map]
      rintro _ first
      obtain ⟨token, begins, rfl⟩ := Option.map_eq_some_iff.mp first
      exact solid tokens read token begins
    obtain ⟨_, _, whole, stated, terminating⟩ := buffer_single_iff.mp ⟨buffer, begins⟩
    obtain ⟨phrase, rest, rfl, rfl, rfl⟩ := List.map_eq_append_iff.mp whole
    exact parse_eq_ok_iff.mpr ⟨phrase, rest, read, stated, by simpa using terminating⟩

theorem parse_of_leftover {between after : List Token} (read : tokenize text = .ok tokens)
    (first : parseTokens (stopOf tokens) tokens = .ok query (between ++ token :: after))
    (terminating : ∀ other ∈ between, other.kind = .terminator) (solid : token.kind ≠ .terminator) :
    parse text = .error (.unexpectedToken "end of input" token.kind.describe token.position) := by
  have skipped : skipTerminators (between ++ token :: after) = token :: after := by
    refine Text.dropWhile_run (fun other member => decide_eq_true (terminating other member)) ?_
    rintro _ ⟨⟩
    exact decide_eq_false solid
  simp only [parse, read, first, Parsed.ok, skipped]
  rfl

theorem parse_of_error (read : tokenize text = .ok tokens)
    (failed : (parseTokens (stopOf tokens) tokens).outcome = .error cause) : parse text = .error cause := by
  simp only [parse, read, failed]

theorem parseAll_of_error (read : tokenize text = .ok (token :: rest)) (solid : token.kind ≠ .terminator)
    (failed : (parseTokens (stopOf (token :: rest)) (token :: rest)).outcome = .error cause) :
    parseAll text = .error cause := by
  simp only [parseAll, read]
  rw [parseAllTokens_of_cons (skipTerminators_eq_self solid)]
  simp only [Parsed.andThen, failed]
  rfl

theorem parse_unreadable (unreadable : tokenize text = .error cause) :
    parse text = .error cause ∧ parseAll text = .error cause := by
  simp only [parse, parseAll, unreadable, and_self]

theorem parse_of_nothing (read : tokenize text = .ok []) :
    parse text = .error (.missingCommand 0) ∧ parseAll text = .ok [] := by
  refine ⟨parse_of_error read rfl, parseAll_eq_ok_iff.mpr ⟨[], read, .done⟩⟩

end Reading

open TokenStream (ofTokens)

/-- Asking for one query and asking for all of them agree. One query is read where it is all that there is and no
    terminator comes before it. Where the first query fails, both fail alike. What is left behind it is an error
    where one query is asked for, and so is a text without tokens. -/
theorem parse_agrees_with_parseAll (text : String) :
    (∀ query, parse text = .ok query ↔ parseAll text = .ok [query] ∧
      ∀ tokens, tokenize text = .ok tokens → ∀ token ∈ tokens.head?, token.kind ≠ .terminator) ∧
    (∀ first rest, tokenize text = .ok (first :: rest) → first.kind ≠ .terminator →
      (∀ cause, (ofTokens (first :: rest)).nextQuery.1 = .error cause →
        parse text = .error cause ∧ parseAll text = .error cause) ∧
      ∀ query between token after, (ofTokens (first :: rest)).nextQuery.1 = .ok query →
        (ofTokens (first :: rest)).nextQuery.2.remaining = between ++ token :: after →
        (∀ other ∈ between, other.kind = .terminator) → token.kind ≠ .terminator →
          parse text = .error (.unexpectedToken "end of input" token.kind.describe token.position)) ∧
    (tokenize text = .ok [] → parse text = .error (.missingCommand 0) ∧ parseAll text = .ok []) ∧
    ∀ cause, tokenize text = .error cause → parse text = .error cause ∧ parseAll text = .error cause := by
  refine ⟨fun query => parse_eq_ok_iff_parseAll, ?_, parse_of_nothing, fun cause => parse_unreadable⟩
  intro first rest read solid
  refine ⟨fun cause failed => ⟨parse_of_error read failed, parseAll_of_error read solid failed⟩, ?_⟩
  intro query between token after succeeded left terminating stands
  have whole : parseTokens (stopOf (first :: rest)) (first :: rest) = .ok query (between ++ token :: after) := by
    rw [Parsed.ok, ← succeeded, ← left]
    rfl
  exact parse_of_leftover read whole terminating stands

theorem parse_agrees_with_parseAll_leftover :
    let text := "show count;;delete limit"
    let first : Token := ⟨.word .command "show", 0⟩
    let between : List Token := [⟨.terminator, 10⟩, ⟨.terminator, 11⟩]
    let second : Token := ⟨.word .command "delete", 12⟩
    let after : List Token := [⟨.word .condition "limit", 19⟩]
    let stream := ofTokens (first :: ⟨.word .generic "count", 5⟩ :: (between ++ second :: after))
    tokenize text = .ok stream.remaining ∧ first.kind ≠ .terminator ∧
      stream.nextQuery.1 = .ok ⟨.showProperty, .property "count", .everything, 0⟩ ∧
      stream.nextQuery.2.remaining = between ++ second :: after ∧
      (∀ other ∈ between, other.kind = .terminator) ∧ second.kind ≠ .terminator ∧
      parse text = .error (.unexpectedToken "end of input" "command 'delete'" 12) := by
  intro text first between second after stream
  have read : tokenize text = .ok stream.remaining := by decide +kernel
  have solid : first.kind ≠ .terminator := by decide
  have succeeded : stream.nextQuery.1 = .ok ⟨.showProperty, .property "count", .everything, 0⟩ := by decide +kernel
  have left : stream.nextQuery.2.remaining = between ++ second :: after := by decide +kernel
  have terminating : ∀ other ∈ between, other.kind = .terminator := by decide
  have stands : second.kind ≠ .terminator := by decide
  obtain ⟨-, leftover, -⟩ := parse_agrees_with_parseAll text
  have failed := (leftover first _ read solid).2 _ between second after succeeded left terminating stands
  exact ⟨read, solid, succeeded, left, terminating, stands, failed⟩

end TagQuery.Query
