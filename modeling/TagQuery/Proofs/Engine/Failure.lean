import TagQuery.Proofs.Engine.Sequence
import TagQuery.Proofs.Engine.WritePhase
import TagQuery.Proofs.Query.SyntaxErrors
import TagQuery.Proofs.Query.WellFormed

namespace TagQuery

theorem Subject.Suits.assignment_iff {command : Command} {subject : Subject}
    (suits : subject.Suits command) : command = .update ↔ ∃ changes, subject = .assignment changes := by
  cases suits with
  | property => simp
  | assignment => simp
  | projection _ updates => simp [updates]

theorem Subject.Suits.property_iff {command : Command} {subject : Subject}
    (suits : subject.Suits command) : command = .showProperty ↔ ∃ name, subject = .property name := by
  cases suits with
  | property => simp
  | assignment => simp
  | projection shows _ => simp [shows]

/-- Why a query that can be read is not answered: its first word is no command, or no library has the
    property that it shows. -/
def Query.Faulty (query : Query) (cause : QueryError) : Prop :=
  (∃ word, query.command = .unknown word ∧ cause = .unknownCommand word) ∨
    ∃ name, query.command = .showProperty ∧ query.subject = .property name ∧
      name ∉ Library.propertyNames ∧ cause = .unknownProperty name

theorem Query.Faulty.not_syntax {query : Query} {cause : QueryError} (faulty : query.Faulty cause) :
    cause.isSyntaxError = false := by
  rcases faulty with ⟨word, _, rfl⟩ | ⟨name, _, _, _, rfl⟩ <;> rfl

namespace Engine

section Library

variable {settings : Settings} {query : Query} {library : Library} {error : Error}

theorem runShow_error {name : String} (named : query.subject = .property name)
    (failed : (runShow query library).1 = .error error) :
    name ∉ Library.propertyNames ∧ error = .query (.unknownProperty name) := by
  rw [runShow_library named] at failed
  cases found : library.property? name with
  | some value =>
    rw [found] at failed
    cases failed
  | none =>
    rw [found] at failed
    cases failed
    exact ⟨(library.property?_eq_none_iff name).mp found, rfl⟩

theorem runUpdate_succeeds {changes : Assignments} (assigns : query.subject = .assignment changes) :
    ∃ answer, (runUpdate settings query library).1 = .ok answer := by
  have selected := select_library settings query [] library
  simp only [runUpdate, assigns, selected]
  exact ⟨_, rfl⟩

theorem run_error (suits : query.subject.Suits query.command)
    (failed : (run settings query library).1 = .error error) :
    ∃ cause, error = .query cause ∧ query.Faulty cause := by
  cases acts : query.command with
  | select =>
    rw [run, acts] at failed
    cases failed
  | delete =>
    rw [run, acts] at failed
    cases failed
  | update =>
    obtain ⟨changes, assigns⟩ := suits.assignment_iff.mp acts
    obtain ⟨answer, succeeded⟩ := runUpdate_succeeds assigns
    rw [run, acts] at failed
    cases succeeded.symm.trans failed
  | showProperty =>
    obtain ⟨name, named⟩ := suits.property_iff.mp acts
    rw [run, acts] at failed
    obtain ⟨unknown, same⟩ := runShow_error named failed
    exact ⟨_, same, .inr ⟨name, acts, named, unknown, rfl⟩⟩
  | unknown word =>
    rw [run, acts] at failed
    cases failed
    exact ⟨_, rfl, .inl ⟨word, acts, rfl⟩⟩

end Library

theorem executeAll_error_of_readable {settings : Settings} {library : Library} {text : String}
    {queries : List Query} {error : Error} (read : Query.parseAll text = .ok queries) :
    (executeAll settings text library).1 = .error error ↔
      ∃ cause query, error = .query cause ∧ FirstFailure settings library queries query error ∧
        query.Faulty cause := by
  rw [executeAll_readable read, runAll_error_iff]
  constructor
  · intro some
    obtain ⟨query, failing⟩ := some
    have suits := (Query.wellFormed_of_parseAll read query failing.mem).subject
    obtain ⟨left, failed⟩ := failing.run_error
    obtain ⟨cause, same, faulty⟩ := run_error suits failed
    exact ⟨cause, query, same, failing, faulty⟩
  · intro some
    obtain ⟨_, query, _, failing, _⟩ := some
    exact ⟨query, failing⟩

/-- A text that cannot be read fails before anything has run. A text that can be read fails at the first of
    its queries that fails, and that query names a command or a property that there is not. -/
theorem execute_error_iff (settings : Settings) (text : String) (library : Library) :
    (∀ queries, Query.parseAll text = .ok queries → ∀ query ∈ queries,
      (query.command = .update ↔ ∃ changes, query.subject = .assignment changes) ∧
      (query.command = .showProperty ↔ ∃ name, query.subject = .property name)) ∧
    ∀ error,
      ((executeAll settings text library).1 = .error error ↔
        (execute settings text library).1 = .error error) ∧
      ((execute settings text library).1 = .error error ↔ ∃ cause, error = .query cause ∧
        if cause.isSyntaxError then
          Query.parseAll text = .error cause ∧ (execute settings text library).2 = library ∧
            (executeAll settings text library).2 = library
        else
          ∃ queries query, Query.parseAll text = .ok queries ∧
            FirstFailure settings library queries query error ∧
            ((∃ word, query.command = .unknown word ∧ cause = .unknownCommand word) ∨
              ∃ name, query.command = .showProperty ∧ query.subject = .property name ∧
                name ∉ ["labels", "count", "paths", "artists", "albums", "genres"] ∧
                cause = .unknownProperty name)) := by
  refine ⟨?_, fun error => ⟨execute_error_iff_executeAll.symm, ?_⟩⟩
  · intro queries read query member
    have suits := (Query.wellFormed_of_parseAll read query member).subject
    exact ⟨suits.assignment_iff, suits.property_iff⟩
  · rw [execute_eq_executeAll]
    cases read : Query.parseAll text with
    | error cause =>
      have syntactic := Query.parseAll_failsBySyntax text cause read
      rw [executeAll_unreadable read]
      constructor
      · intro failed
        cases failed
        refine ⟨cause, rfl, ?_⟩
        rw [if_pos syntactic]
        exact ⟨rfl, rfl, rfl⟩
      · intro some
        obtain ⟨other, same, how⟩ := some
        split at how
        · cases how.1
          rw [same]
          rfl
        · obtain ⟨_, _, readable, _⟩ := how
          cases readable
    | ok queries =>
      rw [← execute_eq_executeAll, execute_error_iff_executeAll, executeAll_error_of_readable read]
      constructor
      · intro some
        obtain ⟨cause, query, same, failing, faulty⟩ := some
        refine ⟨cause, same, ?_⟩
        rw [faulty.not_syntax]
        exact ⟨queries, query, rfl, failing, faulty⟩
      · intro some
        obtain ⟨cause, same, how⟩ := some
        split at how
        · cases how.1
        · obtain ⟨_, query, readable, failing, faulty⟩ := how
          cases readable
          exact ⟨cause, query, same, failing, faulty⟩

end Engine

end TagQuery
