import TagQuery.Proofs.Keyword
import TagQuery.Proofs.Query.Phrase
import TagQuery.Query.Stream

namespace TagQuery

namespace Query

inductive Opens : Command → TokenKind → Prop
  | select {word : String} (spelled : Keyword.select.Spells word) : Opens .select (.word .command word)
  | update {word : String} (spelled : Keyword.update.Spells word) : Opens .update (.word .command word)
  | delete {word : String} (spelled : Keyword.delete.Spells word) : Opens .delete (.word .command word)
  | unknown {word : String} : Opens (.unknown word) (.word .generic word)

/-- What the items of a collection are to a command: assignments, all of which have to be read, or the labels
    to keep. -/
inductive ActsOn : Command → List String → Subject → Prop
  | assignment {items : List String} {pairs : List (String × Option String)} (some : items ≠ [])
      (cut : items.map Assignments.pair? = pairs.map Option.some) :
      ActsOn .update items (.assignment (.ofList pairs))
  | projection {command : Command} {items : List String} (updates : command ≠ .update) :
      ActsOn command items (.projection (if "*" ∈ items then [] else items))

inductive Clause {α : Type} (keyword : Keyword) (kind : α → TokenKind) : Option α → List TokenKind → Prop
  | unstated : Clause keyword kind none []
  | stated {word : String} {value : α} (spelled : keyword.Spells word) :
      Clause keyword kind (some value) [.word .condition word, kind value]

def Clauses (target : Option Target) (limit : Option UInt64) (kinds : List TokenKind) : Prop :=
  ∃ first second, Clause .whereTarget .target target first ∧ Clause .limit .integer limit second ∧
    (kinds = first ++ second ∨ kinds = second ++ first)

/-- The sequences of tokens that start with a query. Whatever may follow a question for a property, but
    after conditions there has to be a terminator, or nothing. -/
inductive Grammar : Query → List TokenKind → Prop
  | property {word name : String} {rest : List TokenKind} (spelled : Keyword.showProperty.Spells word) :
      Grammar ⟨.showProperty, .property name, .eager ∅, 0⟩ (.word .command word :: .word .generic name :: rest)
  | action {command : Command} {opening : TokenKind} {items : List String} {subject : Subject}
      {target : Option Target} {limit : Option UInt64} {clauses rest : List TokenKind}
      (begun : Opens command opening) (named : ActsOn command items subject)
      (stated : Clauses target limit clauses) (ended : rest = [] ∨ rest.head? = some .terminator) :
      Grammar ⟨command, subject, target.getD (.eager ∅), limit.getD 0⟩
        (opening :: .collection items :: (clauses ++ rest))

variable {command : Command} {kind : TokenKind} {kinds : List TokenKind}

theorem opens_iff : Opens command kind ↔ Opening command kind ∧ command ≠ .showProperty := by
  constructor
  · intro opens
    cases opens with
    | select spelled | update spelled | delete spelled =>
      exact ⟨.known (Command.ofWord?_of_spells spelled), by simp⟩
    | unknown => exact ⟨.unknown, by simp⟩
  · rintro ⟨opening, acts⟩
    cases opening with
    | unknown => exact .unknown
    | known found =>
      obtain ⟨keyword, spelled, names⟩ := Command.ofWord?_eq_some_iff.mp found
      cases keyword <;> cases names
      · exact .select spelled
      · exact .update spelled
      · exact .delete spelled
      · exact absurd rfl acts

theorem actsOn_iff {items : List String} {subject : Subject} (acts : command ≠ .showProperty) :
    ActsOn command items subject ↔ Naming command (.collection items) subject := by
  have kept : projectionOf items = .projection (if "*" ∈ items then [] else items) := by
    rw [projectionOf, wildcard]
    split <;> rfl
  constructor
  · intro named
    cases named with
    | assignment some cut => exact .assignment some cut
    | projection updates =>
      rw [← kept]
      exact .projection acts updates
  · intro named
    cases named with
    | assignment some cut => exact .assignment some cut
    | projection _ updates =>
      rw [kept]
      exact .projection updates

theorem naming_collection {subject : Subject} (acts : command ≠ .showProperty) (named : Naming command kind subject) :
    ∃ items, kind = .collection items := by
  cases named with
  | property => exact absurd rfl acts
  | assignment | projection => exact ⟨_, rfl⟩

theorem clauses_of_stating {final : Conditions} (stated : Stating {} kinds final) :
    Clauses final.target final.limit kinds := by
  -- Each condition is stated once at most, which leaves five sequences.
  cases stated with
  | done => exact ⟨[], [], .unstated, .unstated, .inl rfl⟩
  | whereTarget _ first others =>
    cases others with
    | done => exact ⟨_, [], .stated first, .unstated, .inl rfl⟩
    | whereTarget unstated => cases unstated
    | limit _ second others =>
      cases others with
      | done => exact ⟨_, _, .stated first, .stated second, .inl rfl⟩
      | whereTarget unstated | limit unstated => cases unstated
  | limit _ first others =>
    cases others with
    | done => exact ⟨[], _, .unstated, .stated first, .inl rfl⟩
    | limit unstated => cases unstated
    | whereTarget _ second others =>
      cases others with
      | done => exact ⟨_, _, .stated second, .stated first, .inr rfl⟩
      | whereTarget unstated | limit unstated => cases unstated

theorem stating_of_clauses {final : Conditions} (clauses : Clauses final.target final.limit kinds) :
    Stating {} kinds final := by
  obtain ⟨target, limit⟩ := final
  obtain ⟨first, second, targetClause, limitClause, either⟩ := clauses
  dsimp only at targetClause limitClause
  cases targetClause with
  | unstated =>
    rw [List.nil_append, List.append_nil, or_self] at either
    rw [either]
    cases limitClause with
    | unstated => exact .done
    | stated limits => exact .limit rfl limits .done
  | stated asks =>
    cases limitClause with
    | unstated =>
      rw [List.append_nil, List.nil_append, or_self] at either
      rw [either]
      exact .whereTarget rfl asks .done
    | stated limits =>
      rcases either with rfl | rfl
      · exact .whereTarget rfl asks (.limit rfl limits .done)
      · exact .limit rfl limits (.whereTarget rfl asks .done)

theorem grammar_iff {query : Query} :
    Grammar query kinds ↔ ∃ phrase rest, kinds = phrase ++ rest ∧ Phrase query phrase ∧
      (query.command = .showProperty ∨ Ended rest) := by
  have endedIff (rest : List TokenKind) : (rest = [] ∨ rest.head? = some .terminator) ↔ Ended rest := by
    cases rest <;> simp [Ended]
  constructor
  · intro grammar
    cases grammar with
    | property spelled =>
      have begun : Opening .showProperty (.word .command _) := .known (Command.ofWord?_of_spells spelled)
      exact ⟨_, _, rfl, .showProperty begun .property, .inl rfl⟩
    | action begun named stated ended =>
      obtain ⟨begun, acts⟩ := opens_iff.mp begun
      have stated : Stating {} _ ⟨_, _⟩ := stating_of_clauses stated
      have phrase := Phrase.conditional acts begun ((actsOn_iff acts).mp named) stated
      exact ⟨_, _, rfl, phrase, .inr ((endedIff _).mp ended)⟩
  · rintro ⟨phrase, rest, rfl, read, ended⟩
    cases read with
    | showProperty begun named =>
      cases named with
      | projection shows => exact absurd rfl shows
      | property =>
        cases begun with
        | known found =>
          obtain ⟨keyword, spelled, names⟩ := Command.ofWord?_eq_some_iff.mp found
          cases keyword <;> cases names
          exact .property spelled
    | conditional acts begun named stated =>
      obtain ⟨items, rfl⟩ := naming_collection acts named
      have ended := (endedIff _).mpr (ended.resolve_left acts)
      exact .action (opens_iff.mpr ⟨begun, acts⟩) ((actsOn_iff acts).mpr named) (clauses_of_stating stated) ended

end Query

/-- One query is read from a list of tokens just where the list starts with one. -/
theorem TokenStream.nextQuery_eq_ok_iff (tokens : List Token) (query : Query) :
    (ofTokens tokens).nextQuery.1 = .ok query ↔ Query.Grammar query (tokens.map Token.kind) := by
  rw [Query.grammar_iff]
  constructor
  · intro found
    have whole : Query.parseTokens (Query.stopOf tokens) tokens =
        .ok query (Query.parseTokens (Query.stopOf tokens) tokens).rest := by
      rw [Parsed.ok, ← found]
      rfl
    obtain ⟨phrase, parted, read, ended⟩ := Query.parseTokens_eq_ok_iff.mp whole
    exact ⟨_, _, (congrArg (List.map Token.kind) parted).trans List.map_append, read, ended⟩
  · intro grammar
    obtain ⟨phrase, rest, shown, read, ended⟩ := grammar
    obtain ⟨taken, unread, rfl, rfl, rfl⟩ := List.map_eq_append_iff.mp shown
    have whole : Query.parseTokens (Query.stopOf (taken ++ unread)) (taken ++ unread) = .ok query unread :=
      Query.parseTokens_eq_ok_iff.mpr ⟨taken, rfl, read, ended⟩
    rw [nextQuery, ofTokens, whole]
    rfl

end TagQuery
