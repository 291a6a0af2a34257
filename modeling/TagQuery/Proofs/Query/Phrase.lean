import TagQuery.Proofs.Keyword
import TagQuery.Query.OfTokens

namespace TagQuery

theorem Parsed.andThen_eq_ok_iff {α β : Type} {first : Parsed α} {next : α → List Token → Parsed β}
    {value : β} {rest : List Token} :
    first.andThen next = .ok value rest ↔
      ∃ middle unread, first = .ok middle unread ∧ next middle unread = .ok value rest := by
  obtain ⟨outcome, unread⟩ := first
  cases outcome with
  | error cause => simp [andThen, Parsed.ok, Parsed.error]
  | ok middle =>
    constructor
    · exact fun found => ⟨middle, unread, rfl, found⟩
    · rintro ⟨_, _, same, found⟩
      cases same
      exact found

namespace Assignments

theorem addItems_eq_ok_iff {position : Nat} {items : List String} {before after : Assignments} :
    addItems position before items = .ok after ↔
      ∃ pairs : List (String × Option String), items.map pair? = pairs.map some ∧
        after = pairs.foldl (fun changes pair => changes.insert pair.1 pair.2) before := by
  induction items generalizing before with
  | nil =>
    constructor
    · intro found
      cases found
      exact ⟨[], rfl, rfl⟩
    · rintro ⟨pairs, cut, rfl⟩
      cases List.map_eq_nil_iff.mp cut.symm
      rfl
  | cons item rest ih =>
    rw [addItems]
    cases first : pair? item with
    | none =>
      constructor
      · intro found
        cases found
      · rintro ⟨pairs, cut, _⟩
        cases pairs with
        | nil => cases cut
        | cons pair pairs =>
          rw [List.map_cons, first] at cut
          cases (List.cons.inj cut).1
    | some pair =>
      rw [ih]
      constructor
      · rintro ⟨pairs, cut, rfl⟩
        exact ⟨pair :: pairs, by rw [List.map_cons, first, cut, List.map_cons], rfl⟩
      · rintro ⟨pairs, cut, rfl⟩
        cases pairs with
        | nil => cases cut
        | cons head pairs =>
          rw [List.map_cons, first, List.map_cons] at cut
          obtain ⟨same, others⟩ := List.cons.inj cut
          cases same
          exact ⟨pairs, others, rfl⟩

theorem ofItems_eq_ok_iff {position : Nat} {items : List String} {changes : Assignments} :
    ofItems position items = .ok changes ↔
      items ≠ [] ∧ ∃ pairs : List (String × Option String),
        items.map pair? = pairs.map some ∧ changes = .ofList pairs := by
  unfold ofItems
  split
  · rename_i none
    simp [none]
  · rename_i some
    rw [addItems_eq_ok_iff]
    exact ⟨fun found => ⟨some, found⟩, fun found => found.2⟩

end Assignments

namespace Query

inductive Opening : Command → TokenKind → Prop
  | known {word : String} {command : Command} (keyword : Command.ofWord? word = some command) :
      Opening command (.word .command word)
  | unknown {word : String} : Opening (.unknown word) (.word .generic word)

inductive Naming : Command → TokenKind → Subject → Prop
  | property {name : String} : Naming .showProperty (.word .generic name) (.property name)
  | assignment {items : List String} {pairs : List (String × Option String)} (some : items ≠ [])
      (cut : items.map Assignments.pair? = pairs.map Option.some) :
      Naming .update (.collection items) (.assignment (.ofList pairs))
  | projection {command : Command} {items : List String} (shows : command ≠ .showProperty)
      (updates : command ≠ .update) : Naming command (.collection items) (projectionOf items)

/-- The tokens that state conditions, each of them at most once, beside those stated before. -/
inductive Stating : Conditions → List TokenKind → Conditions → Prop
  | done {conditions : Conditions} : Stating conditions [] conditions
  | whereTarget {conditions final : Conditions} {word : String} {target : Target} {phrase : List TokenKind}
      (unstated : conditions.target = none) (keyword : Keyword.whereTarget.Spells word)
      (others : Stating { conditions with target := some target } phrase final) :
      Stating conditions (.word .condition word :: .target target :: phrase) final
  | limit {conditions final : Conditions} {word : String} {limit : UInt64} {phrase : List TokenKind}
      (unstated : conditions.limit = none) (keyword : Keyword.limit.Spells word)
      (others : Stating { conditions with limit := some limit } phrase final) :
      Stating conditions (.word .condition word :: .integer limit :: phrase) final

inductive Phrase : Query → List TokenKind → Prop
  | showProperty {opening naming : TokenKind} {subject : Subject} (begun : Opening .showProperty opening)
      (named : Naming .showProperty naming subject) :
      Phrase { command := .showProperty, subject } [opening, naming]
  | conditional {opening naming : TokenKind} {command : Command} {subject : Subject}
      {phrase : List TokenKind} {conditions : Conditions} (acts : command ≠ .showProperty)
      (begun : Opening command opening) (named : Naming command naming subject)
      (stated : Stating {} phrase conditions) :
      Phrase { command, subject
               target := conditions.target.getD .everything
               limit := conditions.limit.getD 0 } (opening :: naming :: phrase)

def Ended (rest : List TokenKind) : Prop := ∀ kind ∈ rest.head?, kind = .terminator

/-- The tokens of several queries, with terminators around them. A query that shows a property needs
    none after it. -/
inductive Buffer : List Query → List TokenKind → Prop
  | done : Buffer [] []
  | terminator {queries : List Query} {rest : List TokenKind} (others : Buffer queries rest) :
      Buffer queries (.terminator :: rest)
  | query {query : Query} {queries : List Query} {phrase rest : List TokenKind} (read : Phrase query phrase)
      (ended : query.command = .showProperty ∨ Ended rest) (others : Buffer queries rest) :
      Buffer (query :: queries) (phrase ++ rest)

variable {stop : Nat} {tokens rest : List Token}

theorem parseCommand_eq_ok_iff {command : Command} :
    parseCommand stop tokens = .ok command rest ↔
      ∃ token, tokens = token :: rest ∧ Opening command token.kind := by
  constructor
  · intro found
    unfold parseCommand at found
    split at found
    · split at found
      · rename_i keyword
        cases found
        exact ⟨_, rfl, .known keyword⟩
      · cases found
    · cases found
      exact ⟨_, rfl, .unknown⟩
    · cases found
    · cases found
  · rintro ⟨⟨kind, position⟩, rfl, opening⟩
    cases opening with
    | known keyword => simp only [parseCommand, keyword]
    | unknown => rfl

theorem parseSubject_eq_ok_iff {command : Command} {subject : Subject} :
    parseSubject stop command tokens = .ok subject rest ↔
      ∃ token, tokens = token :: rest ∧ Naming command token.kind subject := by
  constructor
  · intro found
    unfold parseSubject at found
    split at found
    · cases found
      exact ⟨_, rfl, .property⟩
    · cases found
    · rename_i items position rest
      obtain ⟨outcome, rfl⟩ := Parsed.mk.inj found
      cases read : Assignments.ofItems position items with
      | error cause =>
        rw [read] at outcome
        cases outcome
      | ok changes =>
        rw [read] at outcome
        cases outcome
        obtain ⟨some, pairs, cut, rfl⟩ := Assignments.ofItems_eq_ok_iff.mp read
        exact ⟨_, rfl, .assignment some cut⟩
    · rename_i shows updates
      cases found
      exact ⟨_, rfl, .projection shows updates⟩
    · cases found
  · rintro ⟨⟨kind, position⟩, rfl, naming⟩
    cases naming with
    | property => rfl
    | assignment some cut =>
      have read : Assignments.ofItems position _ = .ok _ :=
        Assignments.ofItems_eq_ok_iff.mpr ⟨some, _, cut, rfl⟩
      simp only [parseSubject, read]
      rfl
    | projection shows updates =>
      cases command <;> first | rfl | contradiction

section Conditions

variable {conditions : Conditions} {token : Token} {word : String} (stated : token.kind = .word .condition word)

include stated

theorem parseConditions_target (keyword : Keyword.whereTarget.Spells word)
    (unstated : conditions.target = none) (target : Target) (position : Nat) (rest : List Token) :
    parseConditions stop conditions (token :: ⟨.target target, position⟩ :: rest) =
      parseConditions stop { conditions with target := some target } rest := by
  have asks : Text.lower word = "where" ∧ conditions.target = none := ⟨Keyword.spells_iff.mp keyword, unstated⟩
  rw [parseConditions.eq_def]
  simp only [stated, if_pos asks]

theorem parseConditions_no_target (keyword : Keyword.whereTarget.Spells word)
    (unstated : conditions.target = none) {rest : List Token}
    (missing : ∀ target position others, rest ≠ ⟨.target target, position⟩ :: others) :
    parseConditions stop conditions (token :: rest) = .error (.expecting "target" stop rest) (rest.drop 1) := by
  have asks : Text.lower word = "where" ∧ conditions.target = none := ⟨Keyword.spells_iff.mp keyword, unstated⟩
  rw [parseConditions.eq_def]
  simp only [stated, if_pos asks]

theorem parseConditions_limit (keyword : Keyword.limit.Spells word)
    (unstated : conditions.limit = none) (limit : UInt64) (position : Nat) (rest : List Token) :
    parseConditions stop conditions (token :: ⟨.integer limit, position⟩ :: rest) =
      parseConditions stop { conditions with limit := some limit } rest := by
  have limits : Text.lower word = "limit" := Keyword.spells_iff.mp keyword
  rw [parseConditions.eq_def]
  simp [stated, limits, unstated]

theorem parseConditions_no_limit (keyword : Keyword.limit.Spells word)
    (unstated : conditions.limit = none) {rest : List Token}
    (missing : ∀ limit position others, rest ≠ ⟨.integer limit, position⟩ :: others) :
    parseConditions stop conditions (token :: rest) = .error (.expecting "integer" stop rest) (rest.drop 1) := by
  have limits : Text.lower word = "limit" := Keyword.spells_iff.mp keyword
  rw [parseConditions.eq_def]
  simp [stated, limits, unstated]

theorem parseConditions_repeated (asked : Keyword.whereTarget.Spells word → conditions.target ≠ none)
    (bounded : Keyword.limit.Spells word → conditions.limit ≠ none) (rest : List Token) :
    parseConditions stop conditions (token :: rest) = .error (.expecting "terminator" stop [token]) rest := by
  rw [parseConditions.eq_def]
  simp only [stated]
  rw [if_neg fun asks => asked (Keyword.spells_iff.mpr asks.1) asks.2,
    if_neg fun limits => bounded (Keyword.spells_iff.mpr limits.1) limits.2]

end Conditions

theorem parseConditions_sound {conditions final : Conditions}
    (found : parseConditions stop conditions tokens = .ok final rest) :
    ∃ phrase, tokens = phrase ++ rest ∧ Stating conditions (phrase.map Token.kind) final ∧
      Ended (rest.map Token.kind) := by
  fun_induction parseConditions stop conditions tokens with
  | case1 conditions =>
    cases found
    exact ⟨[], rfl, .done, by simp [Ended]⟩
  | case2 conditions token rest terminates =>
    cases found
    exact ⟨[], rfl, .done, by simp [Ended, terminates]⟩
  | case3 conditions token word read asks target position rest ih =>
    obtain ⟨phrase, rfl, stated, ended⟩ := ih found
    refine ⟨token :: ⟨.target target, position⟩ :: phrase, rfl, ?_, ended⟩
    rw [List.map_cons, List.map_cons, read]
    exact .whereTarget asks.2 (Keyword.spells_iff.mpr asks.1) stated
  | case4 => cases found
  | case5 conditions token word read _ limits limit position rest ih =>
    obtain ⟨phrase, rfl, stated, ended⟩ := ih found
    refine ⟨token :: ⟨.integer limit, position⟩ :: phrase, rfl, ?_, ended⟩
    rw [List.map_cons, List.map_cons, read]
    exact .limit limits.2 (Keyword.spells_iff.mpr limits.1) stated
  | case6 => cases found
  | case7 => cases found
  | case8 => cases found

theorem parseConditions_complete {conditions final : Conditions} {kinds : List TokenKind}
    (stated : Stating conditions kinds final) {phrase : List Token} (shown : phrase.map Token.kind = kinds)
    (ended : Ended (rest.map Token.kind)) :
    parseConditions stop conditions (phrase ++ rest) = .ok final rest := by
  induction stated generalizing phrase with
  | done =>
    cases List.map_eq_nil_iff.mp shown
    cases rest with
    | nil => rw [List.nil_append, parseConditions]
    | cons token rest =>
      have terminates : token.kind = .terminator := ended _ rfl
      rw [List.nil_append, parseConditions.eq_def]
      simp only [terminates]
  | whereTarget unstated keyword _ ih =>
    obtain ⟨⟨_, place⟩, rest, rfl, rfl, following⟩ := List.map_eq_cons_iff.mp shown
    obtain ⟨⟨_, next⟩, phrase, rfl, rfl, remaining⟩ := List.map_eq_cons_iff.mp following
    rw [List.cons_append, List.cons_append, parseConditions_target rfl keyword unstated]
    exact ih remaining
  | limit unstated keyword _ ih =>
    obtain ⟨⟨_, place⟩, rest, rfl, rfl, following⟩ := List.map_eq_cons_iff.mp shown
    obtain ⟨⟨_, next⟩, phrase, rfl, rfl, remaining⟩ := List.map_eq_cons_iff.mp following
    rw [List.cons_append, List.cons_append, parseConditions_limit rfl keyword unstated]
    exact ih remaining

/-- Reading one query takes a phrase of it, up to the end of its conditions if it may have any. -/
theorem parseTokens_eq_ok_iff {query : Query} :
    parseTokens stop tokens = .ok query rest ↔
      ∃ phrase, tokens = phrase ++ rest ∧ Phrase query (phrase.map Token.kind) ∧
        (query.command = .showProperty ∨ Ended (rest.map Token.kind)) := by
  constructor
  · intro found
    obtain ⟨command, afterCommand, opened, onward⟩ := Parsed.andThen_eq_ok_iff.mp found
    obtain ⟨subject, afterSubject, acted, last⟩ := Parsed.andThen_eq_ok_iff.mp onward
    obtain ⟨opening, rfl, begun⟩ := parseCommand_eq_ok_iff.mp opened
    obtain ⟨naming, rfl, named⟩ := parseSubject_eq_ok_iff.mp acted
    split at last
    · rename_i shows
      subst shows
      cases last
      exact ⟨[opening, naming], rfl, .showProperty begun named, .inl rfl⟩
    · rename_i acts
      obtain ⟨conditions, _, conditioned, final⟩ := Parsed.andThen_eq_ok_iff.mp last
      cases final
      obtain ⟨phrase, rfl, stated, ended⟩ := parseConditions_sound conditioned
      exact ⟨opening :: naming :: phrase, rfl, .conditional acts begun named stated, .inr ended⟩
  · rintro ⟨phrase, rfl, read, ended⟩
    generalize shown : phrase.map Token.kind = kinds at read
    cases read with
    | showProperty begun named =>
      obtain ⟨first, others, rfl, rfl, following⟩ := List.map_eq_cons_iff.mp shown
      obtain ⟨second, none, rfl, rfl, remaining⟩ := List.map_eq_cons_iff.mp following
      cases List.map_eq_nil_iff.mp remaining
      refine Parsed.andThen_eq_ok_iff.mpr ⟨_, _, parseCommand_eq_ok_iff.mpr ⟨first, rfl, begun⟩, ?_⟩
      refine Parsed.andThen_eq_ok_iff.mpr ⟨_, _, parseSubject_eq_ok_iff.mpr ⟨second, rfl, named⟩, ?_⟩
      rw [if_pos rfl]
      rfl
    | conditional acts begun named stated =>
      obtain ⟨first, others, rfl, rfl, following⟩ := List.map_eq_cons_iff.mp shown
      obtain ⟨second, phrase, rfl, rfl, remaining⟩ := List.map_eq_cons_iff.mp following
      have read : parseConditions stop {} (phrase ++ rest) = .ok _ rest :=
        parseConditions_complete stated remaining (ended.resolve_left acts)
      refine Parsed.andThen_eq_ok_iff.mpr ⟨_, _, parseCommand_eq_ok_iff.mpr ⟨first, rfl, begun⟩, ?_⟩
      refine Parsed.andThen_eq_ok_iff.mpr ⟨_, _, parseSubject_eq_ok_iff.mpr ⟨second, rfl, named⟩, ?_⟩
      rw [if_neg acts]
      exact Parsed.andThen_eq_ok_iff.mpr ⟨_, _, read, rfl⟩

theorem Phrase.starts {query : Query} {kinds : List TokenKind} (read : Phrase query kinds) :
    ∃ kind others, kinds = kind :: others ∧ kind ≠ .terminator := by
  cases read with
  | showProperty begun => exact ⟨_, _, rfl, by cases begun; simp⟩
  | conditional _ begun => exact ⟨_, _, rfl, by cases begun <;> simp⟩

theorem skipTerminators_cons {token : Token} (terminates : token.kind = .terminator) :
    skipTerminators (token :: tokens) = skipTerminators tokens :=
  List.dropWhile_cons_of_pos (by simp [Token.isTerminator, terminates])

theorem skipTerminators_eq_self {token : Token} (solid : token.kind ≠ .terminator) :
    skipTerminators (token :: tokens) = token :: tokens :=
  List.dropWhile_cons_of_neg (by simp [Token.isTerminator, solid])

theorem skipTerminators_eq_nil_iff {tokens : List Token} :
    skipTerminators tokens = [] ↔ ∀ token ∈ tokens, token.kind = .terminator := by
  induction tokens with
  | nil => simp [skipTerminators]
  | cons token rest ih =>
    by_cases terminates : token.kind = .terminator
    · rw [skipTerminators_cons terminates, ih]
      simp [terminates]
    · rw [skipTerminators_eq_self terminates]
      simp [terminates]

theorem Buffer.skip {queries : List Query} (read : Buffer queries ((skipTerminators tokens).map Token.kind)) :
    Buffer queries (tokens.map Token.kind) := by
  induction tokens with
  | nil => exact read
  | cons token rest ih =>
    by_cases terminates : token.kind = .terminator
    · rw [skipTerminators_cons terminates] at read
      rw [List.map_cons, terminates]
      exact .terminator (ih read)
    · rwa [skipTerminators_eq_self terminates] at read

theorem parseAllTokens_cons {token : Token} (terminates : token.kind = .terminator) :
    parseAllTokens stop (token :: tokens) = parseAllTokens stop tokens := by
  have skipped : skipTerminators (token :: tokens) = skipTerminators tokens :=
    skipTerminators_cons terminates
  cases begun : skipTerminators tokens with
  | nil => rw [parseAllTokens_of_nil begun, parseAllTokens_of_nil (skipped.trans begun)]
  | cons first rest => rw [parseAllTokens_of_cons begun, parseAllTokens_of_cons (skipped.trans begun)]

theorem buffer_of_parseAllTokens {queries : List Query}
    (found : parseAllTokens stop tokens = .ok queries rest) : Buffer queries (tokens.map Token.kind) := by
  fun_induction parseAllTokens stop tokens generalizing queries with
  | case1 tokens begun =>
    cases found
    exact .skip (begun ▸ .done)
  | case2 => cases found
  | case3 tokens first following begun query unread read shorter ih =>
    obtain ⟨others, unread', remaining, last⟩ := Parsed.andThen_eq_ok_iff.mp found
    cases last
    obtain ⟨phrase, whole, read, ended⟩ := parseTokens_eq_ok_iff.mp read
    refine .skip ?_
    rw [begun, whole, List.map_append]
    exact .query read ended (ih remaining)

theorem Buffer.parseAllTokens_eq {queries : List Query} {kinds : List TokenKind}
    (buffer : Buffer queries kinds) (shown : tokens.map Token.kind = kinds) :
    parseAllTokens stop tokens = .ok queries [] := by
  induction buffer generalizing tokens with
  | done =>
    cases List.map_eq_nil_iff.mp shown
    exact parseAllTokens_of_nil rfl
  | terminator _ ih =>
    obtain ⟨token, others, rfl, terminates, following⟩ := List.map_eq_cons_iff.mp shown
    rw [parseAllTokens_cons terminates]
    exact ih following
  | query read ended _ ih =>
    obtain ⟨phrase, unread, rfl, rfl, rfl⟩ := List.map_eq_append_iff.mp shown
    obtain ⟨kind, others, opens, solid⟩ := read.starts
    obtain ⟨first, phrase, rfl, rfl, rfl⟩ := List.map_eq_cons_iff.mp opens
    have begun : skipTerminators (first :: phrase ++ unread) = first :: (phrase ++ unread) :=
      skipTerminators_eq_self solid
    have parsed : parseTokens stop (first :: (phrase ++ unread)) = .ok _ unread :=
      parseTokens_eq_ok_iff.mpr ⟨first :: phrase, rfl, read, ended⟩
    rw [parseAllTokens_of_cons begun]
    refine Parsed.andThen_eq_ok_iff.mpr ⟨_, _, parsed, ?_⟩
    exact Parsed.andThen_eq_ok_iff.mpr ⟨_, _, ih rfl, rfl⟩

theorem parseAllTokens_eq_ok_iff {queries : List Query} :
    (parseAllTokens stop tokens).outcome = .ok queries ↔ Buffer queries (tokens.map Token.kind) := by
  constructor
  · intro found
    have whole : parseAllTokens stop tokens = .ok queries (parseAllTokens stop tokens).rest := by
      rw [Parsed.ok, ← found]
    exact buffer_of_parseAllTokens whole
  · intro buffer
    rw [buffer.parseAllTokens_eq rfl]
    rfl

end Query

end TagQuery
