import TagQuery.Proofs.Query.Blame
import TagQuery.Query.Stream

namespace TagQuery

namespace TokenStream

open Query

inductive Request where
  | query
  | all
deriving DecidableEq

def Request.read : Request → Nat → List Token → Parsed (List Query)
  | query, stop, tokens => (parseTokens stop tokens).andThen fun query rest => .ok [query] rest
  | all, stop, tokens => parseAllTokens stop tokens

def answer (stream : TokenStream) : Request → Except QueryError (List Query) × TokenStream
  | .query => (stream.nextQuery.1.map ([·]), stream.nextQuery.2)
  | .all => stream.allQueries

def after (stream : TokenStream) (requests : List Request) : TokenStream :=
  requests.foldl (fun stream request => (stream.answer request).2) stream

/-- The stream of these tokens with the first `cursor` of them consumed. -/
def consumed (tokens : List Token) (cursor : Nat) : TokenStream := ⟨tokens.drop cursor, stopOf tokens⟩

/-- Queries are asked for one by one, terminators skipped, until no tokens are left; `none` if more than so many
    would be asked for. -/
def allWithin : Nat → TokenStream → Option (Except QueryError (List Query) × TokenStream)
  | 0, stream => if skipTerminators stream.remaining = [] then some (.ok [], ⟨[], stream.stop⟩) else none
  | bound + 1, stream =>
    match skipTerminators stream.remaining with
    | [] => some (.ok [], ⟨[], stream.stop⟩)
    | token :: rest =>
      match nextQuery ⟨token :: rest, stream.stop⟩ with
      | (.error cause, left) => some (.error cause, left)
      | (.ok query, left) => (allWithin bound left).map fun others => (others.1.map (query :: ·), others.2)

/-- With other tokens behind those of the stream the request could be met. -/
def NeedsMore (tokens : List Token) (cursor : Nat) (request : Request) : Prop :=
  ∃ more queries, ((consumed (tokens ++ more) cursor).answer request).1 = .ok queries

theorem answer_eq (stream : TokenStream) (request : Request) :
    stream.answer request = ((request.read stream.stop stream.remaining).outcome,
      ⟨(request.read stream.stop stream.remaining).rest, stream.stop⟩) := by
  cases request with
  | all => rfl
  | query =>
    simp only [answer, nextQuery, Request.read, Parsed.andThen]
    cases (parseTokens stream.stop stream.remaining).outcome <;> rfl

theorem Request.read_rest_suffix (request : Request) (stop : Nat) (tokens : List Token) :
    (request.read stop tokens).rest <:+ tokens := by
  cases request with
  | all => exact parseAllTokens_rest_suffix stop tokens
  | query =>
    refine (Parsed.andThen_rest_suffix fun _ => List.suffix_rfl).trans ?_
    cases tokens with
    | nil => exact List.suffix_rfl
    | cons token rest => exact (parseTokens_rest_suffix stop token rest).trans (List.suffix_cons _ _)

theorem Request.read_query_rest (stop : Nat) (tokens : List Token) :
    (Request.query.read stop tokens).rest = (parseTokens stop tokens).rest := by
  simp only [read, Parsed.andThen]
  cases (parseTokens stop tokens).outcome <;> rfl

theorem Request.read_accountable (request : Request) : Accountable request.read := by
  cases request with
  | query => exact parseTokens_accountable.map ([·]) fun _ _ => rfl
  | all => exact parseAllTokens_accountable

theorem consumed_append {tokens : List Token} {cursor : Nat} (inside : cursor ≤ tokens.length) (more : List Token) :
    (consumed (tokens ++ more) cursor).remaining = tokens.drop cursor ++ more :=
  List.drop_append_of_le_length inside

theorem consumed_of_suffix {tokens rest : List Token} {cursor : Nat} (suffix : rest <:+ tokens.drop cursor) :
    ⟨rest, stopOf tokens⟩ = consumed tokens (tokens.length - rest.length) := by
  have whole := List.suffix_iff_eq_drop.mp (suffix.trans (List.drop_suffix cursor tokens))
  rw [consumed, ← whole]

theorem stopOf_eq {tokens : List Token} (placed : ∀ token ∈ tokens, token.position < UInt64.size - 1) :
    stopOf tokens = match tokens.getLast? with | none => 0 | some last => last.position + 1 := by
  unfold stopOf
  cases last : tokens.getLast? with
  | none => rfl
  | some token =>
    have bound := placed token (List.mem_of_getLast? last)
    exact Nat.mod_eq_of_lt (by omega)

/-- Where the error of a request is that found the stream at `cursor` and left it at `next`. -/
structure Blames (tokens : List Token) (cursor next : Nat) (request : Request) (cause : QueryError) : Prop where
  consumed (enough : ¬ NeedsMore tokens cursor request) :
    cursor < next ∧ ∃ token, tokens[next - 1]? = some token ∧ cause.position? = some token.position
  missing (more : NeedsMore tokens cursor request) :
    next = tokens.length ∧
      cause.position? = some (match tokens.getLast? with | none => 0 | some last => last.position + 1)

theorem cursor_unique {tokens : List Token} {cursor other : Nat} (inside : cursor ≤ tokens.length)
    (within : other ≤ tokens.length) (same : consumed tokens cursor = consumed tokens other) : cursor = other := by
  have length := congrArg (fun stream => stream.remaining.length) same
  simp only [consumed, List.length_drop] at length
  omega

def cursorAfter (tokens : List Token) (cursor : Nat) (request : Request) : Nat :=
  tokens.length - (request.read (stopOf tokens) (tokens.drop cursor)).rest.length

section Answer

variable {tokens : List Token} {cursor : Nat}

theorem answer_consumed (cursor : Nat) (request : Request) :
    (consumed tokens cursor).answer request =
      ((request.read (stopOf tokens) (tokens.drop cursor)).outcome,
        consumed tokens (cursorAfter tokens cursor request)) := by
  have suffix := request.read_rest_suffix (stopOf tokens) (tokens.drop cursor)
  rw [answer_eq]
  exact congrArg (Prod.mk _) (consumed_of_suffix suffix)

theorem cursorAfter_le (tokens : List Token) (cursor : Nat) (request : Request) :
    cursorAfter tokens cursor request ≤ tokens.length := Nat.sub_le _ _

theorem length_rest_le (tokens : List Token) (cursor : Nat) (request : Request) :
    (request.read (stopOf tokens) (tokens.drop cursor)).rest.length ≤ tokens.length - cursor :=
  List.length_drop ▸ (request.read_rest_suffix (stopOf tokens) (tokens.drop cursor)).length_le

theorem le_cursorAfter (inside : cursor ≤ tokens.length) (request : Request) :
    cursor ≤ cursorAfter tokens cursor request := by
  have length := length_rest_le tokens cursor request
  unfold cursorAfter
  omega

theorem lt_cursorAfter (left : cursor < tokens.length) : cursor < cursorAfter tokens cursor .query := by
  have suffix := parseTokens_rest_suffix (stopOf tokens) tokens[cursor] (tokens.drop (cursor + 1))
  have length := suffix.length_le
  rw [← List.drop_eq_getElem_cons left, ← Request.read_query_rest, List.length_drop] at length
  unfold cursorAfter
  omega

theorem cursorAfter_all_of_ok {queries : List Query}
    (found : ((consumed tokens cursor).answer .all).1 = .ok queries) :
    cursorAfter tokens cursor .all = tokens.length := by
  have none : (Request.all.read (stopOf tokens) (tokens.drop cursor)).rest = [] := parseAllTokens_rest_of_ok found
  rw [cursorAfter, none]
  rfl

theorem answer_more (inside : cursor ≤ tokens.length) (request : Request) (more : List Token) :
    ((consumed (tokens ++ more) cursor).answer request).1 =
      (request.read (stopOf (tokens ++ more)) (tokens.drop cursor ++ more)).outcome := by
  rw [answer_eq, consumed_append inside]
  rfl

theorem answer_blames (placed : ∀ token ∈ tokens, token.position < UInt64.size - 1)
    (inside : cursor ≤ tokens.length) {request : Request} {cause : QueryError}
    (failed : ((consumed tokens cursor).answer request).1 = .error cause) :
    Blames tokens cursor (cursorAfter tokens cursor request) request cause := by
  rw [answer_consumed] at failed
  rcases request.read_accountable.blames failed with last | ending
  · obtain ⟨before, token, rest, whole, position, again⟩ := last
    -- What fails at a token it took fails there whatever follows.
    have enough : ¬ NeedsMore tokens cursor request := by
      rintro ⟨more, queries, found⟩
      rw [answer_more inside, again] at found
      cases found
    refine ⟨fun _ => ?_, fun more => absurd more enough⟩
    have left : (request.read (stopOf tokens) (tokens.drop cursor)).rest = rest := by
      have same := again (stopOf tokens) []
      rw [List.append_nil, List.append_nil] at same
      rw [same]
      rfl
    have length := congrArg List.length whole
    rw [List.length_append, List.length_cons, List.length_drop] at length
    have next : cursorAfter tokens cursor request = cursor + before.length + 1 := by
      rw [cursorAfter, left]
      omega
    refine ⟨by omega, token, ?_, position⟩
    rw [next, Nat.add_sub_cancel, ← List.getElem?_drop, whole]
    simp
  · obtain ⟨ended, position, more, complete⟩ := ending
    have needed : NeedsMore tokens cursor request := by
      obtain ⟨queries, found⟩ := complete (stopOf (tokens ++ more))
      exact ⟨more, queries, by rw [answer_more inside, found]; rfl⟩
    refine ⟨fun enough => absurd needed enough, fun _ => ⟨?_, ?_⟩⟩
    · rw [cursorAfter, ended]
      rfl
    · rw [position, stopOf_eq placed]

end Answer

theorem after_consumed (tokens : List Token) (requests : List Request) :
    ∀ cursor ≤ tokens.length, ∃ next, (consumed tokens cursor).after requests = consumed tokens next ∧
      cursor ≤ next ∧ next ≤ tokens.length := by
  induction requests with
  | nil => exact fun cursor inside => ⟨cursor, rfl, Nat.le_refl _, inside⟩
  | cons request rest ih =>
    intro cursor inside
    obtain ⟨next, left, onward, within⟩ := ih _ (cursorAfter_le tokens cursor request)
    refine ⟨next, ?_, Nat.le_trans (le_cursorAfter inside request) onward, within⟩
    rw [after, List.foldl_cons, answer_consumed]
    exact left

theorem after_queries (tokens : List Token) (count : Nat) :
    ∀ cursor ≤ tokens.length, tokens.length ≤ cursor + count →
      (consumed tokens cursor).after (List.replicate count .query) = consumed tokens tokens.length := by
  induction count with
  | zero =>
    intro cursor inside enough
    have done : cursor = tokens.length := by omega
    rw [done]
    rfl
  | succ count ih =>
    intro cursor inside enough
    rw [List.replicate_succ, after, List.foldl_cons, answer_consumed]
    refine ih _ (cursorAfter_le tokens cursor .query) ?_
    by_cases left : cursor < tokens.length
    · have onward := lt_cursorAfter left
      omega
    · have onward := le_cursorAfter inside .query
      omega

theorem allQueries_of_nil {stream : TokenStream} (done : skipTerminators stream.remaining = []) :
    stream.allQueries = (.ok [], ⟨[], stream.stop⟩) := by
  rw [allQueries, parseAllTokens_of_nil done]
  rfl

theorem allQueries_of_cons {stream : TokenStream} {token : Token} {rest : List Token}
    (begun : skipTerminators stream.remaining = token :: rest) :
    stream.allQueries =
      match nextQuery ⟨token :: rest, stream.stop⟩ with
      | (.error cause, left) => (.error cause, left)
      | (.ok query, left) => (left.allQueries.1.map (query :: ·), left.allQueries.2) := by
  rw [allQueries, parseAllTokens_of_cons begun, nextQuery]
  cases parseTokens stream.stop (token :: rest) with
  | mk outcome unread =>
    cases outcome with
    | error cause => rfl
    | ok query =>
      change (((parseAllTokens stream.stop unread).andThen _).outcome, _) = _
      dsimp only [Parsed.andThen, allQueries]
      cases (parseAllTokens stream.stop unread).outcome <;> rfl

theorem allWithin_eq {bound : Nat} {stream : TokenStream} (enough : stream.remaining.length ≤ bound) :
    allWithin bound stream = some stream.allQueries := by
  induction bound generalizing stream with
  | zero =>
    have none : skipTerminators stream.remaining = [] := by
      rw [List.eq_nil_of_length_eq_zero (Nat.le_zero.mp enough)]
      rfl
    rw [allWithin, if_pos none, allQueries_of_nil none]
  | succ bound ih =>
    rw [allWithin.eq_def]
    cases begun : skipTerminators stream.remaining with
    | nil => simp only [begun, allQueries_of_nil begun]
    | cons token rest =>
      rw [allQueries_of_cons begun]
      simp only [begun]
      cases read : nextQuery ⟨token :: rest, stream.stop⟩ with
      | mk outcome left =>
        cases outcome with
        | error cause => rfl
        | ok query =>
          have shorter : left.remaining.length < stream.remaining.length := by
            have taken := unread_length_lt begun (rfl : parseTokens stream.stop (token :: rest) = _)
            rwa [← congrArg (·.2.remaining) read]
          have within : left.remaining.length ≤ bound := by omega
          simp only [ih within, Option.map_some]

/-- A stream of tokens moves on with every query asked for, and an error tells the last token that the request took.
    Where the tokens were too few for a request, the error is behind the last of them all. -/
theorem requests_progress (tokens : List Token) (placed : ∀ token ∈ tokens, token.position < UInt64.size - 1)
    (requests : List Request) :
    ∃ cursor ≤ tokens.length, (ofTokens tokens).after requests = consumed tokens cursor ∧
      (∀ request, ∃ next, ((consumed tokens cursor).answer request).2 = consumed tokens next ∧
        cursor ≤ next ∧ next ≤ tokens.length ∧ (request = .query → cursor < tokens.length → cursor < next) ∧
        ∀ cause, ((consumed tokens cursor).answer request).1 = .error cause →
          Blames tokens cursor next request cause) ∧
      (∀ queries, (consumed tokens cursor).allQueries.1 = .ok queries →
        (consumed tokens cursor).allQueries.2 = consumed tokens tokens.length) ∧
      allWithin (tokens.length - cursor) (consumed tokens cursor) = some (consumed tokens cursor).allQueries ∧
      (consumed tokens cursor).after (List.replicate (tokens.length - cursor) .query) =
        consumed tokens tokens.length := by
  obtain ⟨cursor, reached, -, inside⟩ := after_consumed tokens requests 0 (Nat.zero_le _)
  refine ⟨cursor, inside, reached, fun request => ?_, fun queries found => ?_, ?_, ?_⟩
  · refine ⟨cursorAfter tokens cursor request, ?_, le_cursorAfter inside request, cursorAfter_le _ _ _, ?_, ?_⟩
    · rw [answer_consumed]
    · rintro rfl left
      exact lt_cursorAfter left
    · exact fun cause failed => answer_blames placed inside failed
  · have all : (consumed tokens cursor).allQueries = (consumed tokens cursor).answer .all := rfl
    rw [all, answer_consumed, cursorAfter_all_of_ok (all ▸ found)]
  · exact allWithin_eq (List.length_drop ▸ Nat.le_refl _)
  · exact after_queries tokens _ cursor inside (by omega)

/-- The first request fails at the terminator and the second at the list of the update. The third takes the
    condition that is left, and the fourth has nothing to take. -/
theorem requests_progress_past_errors :
    let tokens : List Token := [⟨.word .command "select", 30⟩, ⟨.collection ["a"], 7⟩,
      ⟨.word .condition "limit", 7⟩, ⟨.terminator, 0⟩, ⟨.word .command "update", 12⟩, ⟨.collection ["a"], 50⟩,
      ⟨.word .condition "where", 40⟩]
    (∀ token ∈ tokens, token.position < UInt64.size - 1) ∧
      (ofTokens tokens).after [.query, .all] = consumed tokens 6 ∧
      (consumed tokens 6).answer .query = (.error (.missingCommand 40), consumed tokens 7) ∧
      Blames tokens 6 7 .query (.missingCommand 40) ∧
      (consumed tokens 7).answer .query = (.error (.missingCommand 41), consumed tokens 7) ∧
      Blames tokens 7 7 .query (.missingCommand 41) := by
  intro tokens
  have placed : ∀ token ∈ tokens, token.position < UInt64.size - 1 := by decide
  have second : (consumed tokens 4).allQueries.2 = consumed tokens 6 := by
    have bounded : allWithin 3 (consumed tokens 4) = some (.error (.invalidAssignment "a" 50), consumed tokens 6) := rfl
    exact congrArg Prod.snd (Option.some.inj ((allWithin_eq (Nat.le_refl 3)).symm.trans bounded))
  have afterTwo : (ofTokens tokens).after [.query, .all] = consumed tokens 6 := second
  have third : (consumed tokens 6).answer .query = (.error (.missingCommand 40), consumed tokens 7) := rfl
  have afterThree : (ofTokens tokens).after [.query, .all, .query] = consumed tokens 7 := by
    change ((consumed tokens 4).allQueries.2.answer .query).2 = _
    rw [second, third]
  have fourth : (consumed tokens 7).answer .query = (.error (.missingCommand 41), consumed tokens 7) := rfl
  refine ⟨placed, afterTwo, third, ?_, fourth, ?_⟩
  · obtain ⟨cursor, inside, reached, step, -⟩ := requests_progress tokens placed [.query, .all]
    cases cursor_unique inside (by decide : 6 ≤ tokens.length) (reached.symm.trans afterTwo)
    obtain ⟨next, left, -, within, -, blames⟩ := step .query
    cases cursor_unique within (by decide : 7 ≤ tokens.length) (left.symm.trans (congrArg Prod.snd third))
    exact blames _ (congrArg Prod.fst third)
  · obtain ⟨cursor, inside, reached, step, -⟩ := requests_progress tokens placed [.query, .all, .query]
    cases cursor_unique inside (by decide : 7 ≤ tokens.length) (reached.symm.trans afterThree)
    obtain ⟨next, left, -, within, -, blames⟩ := step .query
    cases cursor_unique within (by decide : 7 ≤ tokens.length) (left.symm.trans (congrArg Prod.snd fourth))
    exact blames _ (congrArg Prod.fst fourth)

end TokenStream

end TagQuery
