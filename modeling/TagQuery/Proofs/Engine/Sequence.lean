import TagQuery.Engine.Run
import TagQuery.Proofs.Query.Terminated

namespace TagQuery.Engine

variable {σ : Type}

def followedBy (first : Except Error (List Answer) × σ) (next : σ → Except Error (List Answer) × σ) :
    Except Error (List Answer) × σ :=
  match first with
  | (.error error, store) => (.error error, store)
  | (.ok answers, store) => ((next store).1.map (answers ++ ·), (next store).2)

theorem followedBy_assoc (first : Except Error (List Answer) × σ)
    (second third : σ → Except Error (List Answer) × σ) :
    followedBy (followedBy first second) third =
      followedBy first fun store => followedBy (second store) third := by
  obtain ⟨outcome, left⟩ := first
  cases outcome with
  | error error => rfl
  | ok answers =>
    simp only [followedBy]
    cases ran : second left with
    | mk outcome left =>
      cases outcome with
      | error error => rfl
      | ok others =>
        simp only [Except.map]
        cases third left with
        | mk outcome left => cases outcome <;> simp

variable [Store σ]

/-- The store that queries leave behind when each runs on what the one before it left, whether it
    succeeded or not. -/
def storeAfter (settings : Settings) (store : σ) (queries : List Query) : σ :=
  queries.foldl (fun store query => (run settings query store).2) store

def outcomes (settings : Settings) (store : σ) : List Query → List (Except Error Answer)
  | [] => []
  | query :: rest =>
    (run settings query store).1 :: outcomes settings (run settings query store).2 rest

theorem all_succeed_or_first_fails (found : List (Except Error Answer)) :
    (∃ answers : List Answer, found = answers.map .ok) ∨
      ∃ (answers : List Answer) (error : Error) (later : List (Except Error Answer)),
        found = answers.map .ok ++ .error error :: later := by
  induction found with
  | nil => exact .inl ⟨[], rfl⟩
  | cons head rest ih =>
    cases head with
    | error error => exact .inr ⟨[], error, rest, rfl⟩
    | ok answer =>
      rcases ih with ⟨answers, rfl⟩ | ⟨answers, error, later, rfl⟩
      · exact .inl ⟨answer :: answers, rfl⟩
      · exact .inr ⟨answer :: answers, error, later, rfl⟩

variable {settings : Settings} {store : σ} {queries : List Query} {answers : List Answer}

theorem runAll_cons (query : Query) (rest : List Query) :
    runAll settings store (query :: rest) =
      followedBy ((run settings query store).1.map ([·]), (run settings query store).2)
        (runAll settings · rest) := by
  rw [runAll]
  cases ran : run settings query store with
  | mk outcome left => cases outcome <;> rfl

theorem runAll_of_success (succeeded : outcomes settings store queries = answers.map .ok) :
    runAll settings store queries = (.ok answers, storeAfter settings store queries) := by
  induction queries generalizing store answers with
  | nil =>
    cases List.map_eq_nil_iff.mp succeeded.symm
    rfl
  | cons query rest ih =>
    cases answers with
    | nil => cases succeeded
    | cons answer others =>
      obtain ⟨first, later⟩ := List.cons.inj succeeded
      rw [runAll_cons, first]
      simp only [Except.map, followedBy, ih later, List.singleton_append]
      rfl

theorem runLast_of_success {last : Answer} (succeeded : outcomes settings store queries = answers.map .ok) :
    runLast settings last store queries =
      (.ok (answers.getLast?.getD last), storeAfter settings store queries) := by
  induction queries generalizing store answers last with
  | nil =>
    cases List.map_eq_nil_iff.mp succeeded.symm
    rfl
  | cons query rest ih =>
    cases answers with
    | nil => cases succeeded
    | cons answer others =>
      obtain ⟨first, later⟩ := List.cons.inj succeeded
      have ran : run settings query store = (.ok answer, (run settings query store).2) := by
        rw [← first]
      rw [runLast, ran]
      simp only [ih later, List.getLast?_cons, Option.getD_some]
      rfl

theorem runAll_of_failure {error : Error} {later : List (Except Error Answer)}
    (failed : outcomes settings store queries = answers.map .ok ++ .error error :: later) :
    runAll settings store queries =
      (.error error, storeAfter settings store (queries.take (answers.length + 1))) := by
  induction queries generalizing store answers with
  | nil => cases answers <;> cases failed
  | cons query rest ih =>
    cases answers with
    | nil =>
      obtain ⟨first, _⟩ := List.cons.inj failed
      rw [runAll_cons, first]
      rfl
    | cons answer others =>
      obtain ⟨first, following⟩ := List.cons.inj failed
      rw [runAll_cons, first]
      simp only [Except.map, followedBy, ih following]
      rfl

theorem runLast_of_failure {last : Answer} {error : Error} {later : List (Except Error Answer)}
    (failed : outcomes settings store queries = answers.map .ok ++ .error error :: later) :
    runLast settings last store queries =
      (.error error, storeAfter settings store (queries.take (answers.length + 1))) := by
  induction queries generalizing store answers last with
  | nil => cases answers <;> cases failed
  | cons query rest ih =>
    cases answers with
    | nil =>
      obtain ⟨first, _⟩ := List.cons.inj failed
      have ran : run settings query store = (.error error, (run settings query store).2) := by
        rw [← first]
      rw [runLast, ran]
      rfl
    | cons answer others =>
      obtain ⟨first, following⟩ := List.cons.inj failed
      have ran : run settings query store = (.ok answer, (run settings query store).2) := by
        rw [← first]
      rw [runLast, ran]
      simp only [ih following]
      rfl

theorem outcomes_append (first second : List Query) :
    outcomes settings store (first ++ second) =
      outcomes settings store first ++ outcomes settings (storeAfter settings store first) second := by
  induction first generalizing store with
  | nil => rfl
  | cons query rest ih =>
    rw [List.cons_append, outcomes, outcomes, ih, List.cons_append]
    rfl

section Pair

variable {first second : Query} {answer otherAnswer : Answer} {middle after : σ}

theorem storeAfter_pair (ran : run settings first store = (.ok answer, middle))
    (ranNext : run settings second middle = (.ok otherAnswer, after)) :
    storeAfter settings store [first, second] = after := by
  simp [storeAfter, ran, ranNext]

theorem outcomes_pair (ran : run settings first store = (.ok answer, middle))
    (ranNext : run settings second middle = (.ok otherAnswer, after)) :
    outcomes settings store [first, second] = [.ok answer, .ok otherAnswer] := by
  rw [outcomes, outcomes, outcomes, ran, ranNext]

end Pair

theorem executeAll_readable {text : String} (read : Query.parseAll text = .ok queries) :
    executeAll settings text store = runAll settings store queries := by
  simp only [executeAll, read]

theorem executeAll_unreadable {text : String} {cause : QueryError}
    (unreadable : Query.parseAll text = .error cause) :
    executeAll settings text store = (.error (.query cause), store) := by
  simp only [executeAll, unreadable]

/-- Among the queries stands one that fails after all those before it have succeeded. -/
def FirstFailure (settings : Settings) (store : σ) (queries : List Query) (query : Query) (error : Error) :
    Prop :=
  ∃ before after, queries = before ++ query :: after ∧
    (∃ answers : List Answer, outcomes settings store before = answers.map .ok) ∧
    (run settings query (storeAfter settings store before)).1 = .error error

theorem FirstFailure.mem {query : Query} {error : Error}
    (failing : FirstFailure settings store queries query error) : query ∈ queries := by
  obtain ⟨before, after, parted, _⟩ := failing
  rw [parted]
  exact List.mem_append_right _ List.mem_cons_self

theorem FirstFailure.run_error {query : Query} {error : Error}
    (failing : FirstFailure settings store queries query error) :
    ∃ left : σ, (run settings query left).1 = .error error := by
  obtain ⟨before, _, _, _, failed⟩ := failing
  exact ⟨_, failed⟩

theorem exists_firstFailure_iff {error : Error} :
    (∃ query, FirstFailure settings store queries query error) ↔
      ∃ (answers : List Answer) (later : List (Except Error Answer)),
        outcomes settings store queries = answers.map .ok ++ .error error :: later := by
  constructor
  · intro failing
    obtain ⟨query, before, after, parted, ⟨answers, succeeded⟩, failed⟩ := failing
    subst parted
    refine ⟨answers, outcomes settings (run settings query (storeAfter settings store before)).2 after, ?_⟩
    rw [outcomes_append, succeeded, outcomes, failed]
  · intro some
    obtain ⟨answers, later, failed⟩ := some
    induction queries generalizing store answers with
    | nil => cases answers <;> cases failed
    | cons query rest ih =>
      cases answers with
      | nil =>
        obtain ⟨first, _⟩ := List.cons.inj failed
        exact ⟨query, [], rest, rfl, ⟨[], rfl⟩, first⟩
      | cons answer others =>
        obtain ⟨first, following⟩ := List.cons.inj failed
        obtain ⟨failing, before, after, parted, ⟨answered, succeeded⟩, last⟩ := ih others following
        refine ⟨failing, query :: before, after, congrArg (query :: ·) parted, ⟨answer :: answered, ?_⟩, last⟩
        rw [outcomes, first, succeeded, List.map_cons]

theorem runAll_error_iff {error : Error} :
    (runAll settings store queries).1 = .error error ↔
      ∃ query, FirstFailure settings store queries query error := by
  rw [exists_firstFailure_iff]
  constructor
  · intro ended
    rcases all_succeed_or_first_fails (outcomes settings store queries) with
      ⟨answers, succeeded⟩ | ⟨answers, first, later, failed⟩
    · rw [runAll_of_success succeeded] at ended
      cases ended
    · rw [runAll_of_failure failed] at ended
      cases ended
      exact ⟨answers, later, failed⟩
  · intro some
    obtain ⟨answers, later, failed⟩ := some
    rw [runAll_of_failure failed]

theorem runAll_prefix (settings : Settings) (store : σ) (queries : List Query) :
    ∃ ran, ran <+: queries ∧ (runAll settings store queries).2 = storeAfter settings store ran := by
  rcases all_succeed_or_first_fails (outcomes settings store queries) with
    ⟨answers, succeeded⟩ | ⟨answers, error, later, failed⟩
  · refine ⟨queries, List.prefix_rfl, ?_⟩
    rw [runAll_of_success succeeded]
  · refine ⟨queries.take (answers.length + 1), List.take_prefix _ _, ?_⟩
    rw [runAll_of_failure failed]

theorem execute_eq_executeAll (settings : Settings) (text : String) (store : σ) :
    execute settings text store =
      ((executeAll settings text store).1.map fun answers => answers.getLast?.getD .empty,
        (executeAll settings text store).2) := by
  cases read : Query.parseAll text with
  | error cause =>
    simp only [execute, executeAll, read]
    rfl
  | ok queries =>
    simp only [execute, executeAll, read]
    rcases all_succeed_or_first_fails (outcomes settings store queries) with
      ⟨answers, succeeded⟩ | ⟨answers, error, later, failed⟩
    · rw [runLast_of_success succeeded, runAll_of_success succeeded]
      rfl
    · rw [runLast_of_failure failed, runAll_of_failure failed]
      rfl

theorem execute_error_iff_executeAll {text : String} {error : Error} :
    (execute settings text store).1 = .error error ↔ (executeAll settings text store).1 = .error error := by
  rw [execute_eq_executeAll]
  cases (executeAll settings text store).1 <;> simp [Except.map]

theorem runAll_append (first second : List Query) :
    runAll settings store (first ++ second) =
      followedBy (runAll settings store first) (runAll settings · second) := by
  induction first generalizing store with
  | nil =>
    simp only [List.nil_append, runAll, followedBy]
    cases runAll settings store second with
    | mk outcome left => cases outcome <;> rfl
  | cons query rest ih => simp only [List.cons_append, runAll_cons, ih, followedBy_assoc]

theorem executeAll_append {first second : String} {store : σ}
    (read : ∃ queries, Query.parseAll (first ++ ";" ++ second) = .ok queries) :
    executeAll settings (first ++ ";" ++ second) store =
      followedBy (executeAll settings first store) (executeAll settings second) := by
  obtain ⟨queries, whole⟩ := read
  obtain ⟨before, after, readFirst, readSecond, rfl⟩ := Query.parseAll_append_terminator_iff.mp whole
  have resumed : executeAll settings second = fun store : σ => runAll settings store after := by
    funext store
    simp only [executeAll, readSecond]
  rw [resumed]
  simp only [executeAll, whole, readFirst]
  exact runAll_append before after

/-- A buffer runs only if all of it can be read; then its queries run in order up to the first that
    fails, and whether all answers are asked for or the last one makes no other difference. -/
theorem execute_in_order (settings : Settings) (text : String) (store : σ) :
    (∀ cause, Query.parseAll text = .error cause →
      execute settings text store = (.error (.query cause), store) ∧
      executeAll settings text store = (.error (.query cause), store)) ∧
    (∀ queries, Query.parseAll text = .ok queries →
      (∀ answers : List Answer, outcomes settings store queries = answers.map .ok →
        execute settings text store =
          (.ok (answers.getLast?.getD .empty), storeAfter settings store queries) ∧
        executeAll settings text store = (.ok answers, storeAfter settings store queries)) ∧
      (∀ (answers : List Answer) (error : Error) (later : List (Except Error Answer)),
        outcomes settings store queries = answers.map .ok ++ .error error :: later →
          execute settings text store =
            (.error error, storeAfter settings store (queries.take (answers.length + 1))) ∧
          executeAll settings text store =
            (.error error, storeAfter settings store (queries.take (answers.length + 1)))) ∧
      ((∃ answers : List Answer, outcomes settings store queries = answers.map .ok) ∨
        ∃ (answers : List Answer) (error : Error) (later : List (Except Error Answer)),
          outcomes settings store queries = answers.map .ok ++ .error error :: later)) ∧
    ∀ first second, text = first ++ ";" ++ second → (∃ queries, Query.parseAll text = .ok queries) →
      executeAll settings text store =
        followedBy (executeAll settings first store) (executeAll settings second) := by
  refine ⟨fun cause failed => ?_, fun queries read => ⟨?_, ?_, all_succeed_or_first_fails _⟩, ?_⟩
  · simp only [execute, executeAll, failed, and_self]
  · intro answers succeeded
    simp only [execute, executeAll, read, runLast_of_success succeeded, runAll_of_success succeeded,
      and_self]
  · intro answers error later failed
    simp only [execute, executeAll, read, runLast_of_failure failed, runAll_of_failure failed, and_self]
  · rintro first second rfl read
    exact executeAll_append read

end TagQuery.Engine
