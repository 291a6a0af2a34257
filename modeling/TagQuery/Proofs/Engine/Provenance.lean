import TagQuery.Proofs.Engine.Sequence
import TagQuery.Proofs.Engine.WritePhase
import TagQuery.Proofs.Tag

namespace TagQuery

def Query.Assigns (query : Query) (label : String) (value : Option String) : Prop :=
  query.command = .update ∧ ∃ changes, query.subject = .assignment changes ∧ changes.get? label = some value

/-- What one query makes of a library. -/
inductive Query.Effect (query : Query) (before : Library) : Library → Prop
  | none : query.Effect before before
  | removal {after : Library} (ids : List RecordId) (deletes : query.command = .delete)
      (removed : ∀ id, after.get? id = if id ∈ ids then .none else before.get? id) :
      query.Effect before after
  | change {after : Library} (ids : List RecordId) {changes : Assignments} (updates : query.command = .update)
      (assigns : query.subject = .assignment changes)
      (changed : ∀ id, after.get? id =
        if id ∈ ids then (before.get? id).map (·.apply changes) else before.get? id) :
      query.Effect before after

/-- Every record was there before, and what it holds at a label it held before unless one of the queries
    has put it there. -/
def Library.Derives (queries : List Query) (before after : Library) : Prop :=
  ∀ id tag, after.get? id = some tag → ∃ old, before.get? id = some old ∧
    ∀ label, tag.entry? label = old.entry? label ∨
      ∃ query ∈ queries, ∃ value, query.Assigns label value ∧ tag.entry? label = value.map some

namespace Library.Derives

variable {before middle after : Library} {earlier later queries : List Query}

theorem refl (queries : List Query) (library : Library) : Derives queries library library := by
  intro id tag held
  exact ⟨tag, held, fun label => .inl rfl⟩

theorem mono (derived : Derives earlier before after) (among : earlier ⊆ queries) :
    Derives queries before after := by
  intro id tag held
  obtain ⟨old, present, entries⟩ := derived id tag held
  refine ⟨old, present, fun label => ?_⟩
  rcases entries label with kept | ⟨query, listed, value, assigned⟩
  · exact .inl kept
  · exact .inr ⟨query, among listed, value, assigned⟩

theorem trans (first : Derives earlier before middle) (second : Derives later middle after) :
    Derives (earlier ++ later) before after := by
  intro id tag held
  obtain ⟨old, present, entries⟩ := second id tag held
  obtain ⟨oldest, original, oldEntries⟩ := first id old present
  refine ⟨oldest, original, fun label => ?_⟩
  rcases entries label with kept | ⟨query, listed, value, assigned⟩
  · rcases oldEntries label with same | ⟨query, listed, value, assigns, set⟩
    · exact .inl (kept.trans same)
    · exact .inr ⟨query, List.mem_append_left _ listed, value, assigns, kept.trans set⟩
  · exact .inr ⟨query, List.mem_append_right _ listed, value, assigned⟩

end Library.Derives

namespace Query.Effect

variable {query : Query} {before after : Library} (effect : query.Effect before after)

include effect

theorem derives : Library.Derives [query] before after := by
  intro id tag held
  cases effect with
  | none => exact Library.Derives.refl _ _ id tag held
  | removal ids _ removed =>
    rw [removed] at held
    split at held
    · cases held
    · exact Library.Derives.refl _ _ id tag held
  | change ids updates assigns changed =>
    rename_i changes
    rw [changed] at held
    split at held
    · obtain ⟨old, present, applied⟩ := Option.map_eq_some_iff.mp held
      subst applied
      refine ⟨old, present, fun label => ?_⟩
      cases given : changes.get? label with
      | none =>
        have unassigned := (changes.get?_eq_none_iff label).mp given
        exact .inl (old.entry_apply_unassigned unassigned)
      | some value =>
        have assigned : query.Assigns label value := ⟨updates, changes, assigns, given⟩
        exact .inr ⟨query, List.mem_singleton_self query, value, assigned, old.entry_apply_assigned given⟩
    · exact Library.Derives.refl _ _ id tag held

theorem isSome_get? (keeps : query.command ≠ .delete) (id : RecordId) :
    (after.get? id).isSome = (before.get? id).isSome := by
  cases effect with
  | none => rfl
  | removal _ deletes _ => exact absurd deletes keeps
  | change ids _ _ changed =>
    rw [changed]
    split
    · rw [Option.isSome_map]
    · rfl

theorem unchanged (keeps : query.command ≠ .delete) (reads : query.command ≠ .update) : after = before := by
  cases effect with
  | none => rfl
  | removal _ deletes _ => exact absurd deletes keeps
  | change _ updates _ _ => exact absurd updates reads

end Query.Effect

namespace Engine

section Step

variable (settings : Settings) (query : Query) (library : Library)

theorem runShow_store : (runShow query library).2 = library := by
  cases named : query.subject with
  | projection labels | assignment changes => simp only [runShow, named]
  | property name =>
    rw [runShow_library named]
    cases library.property? name <;> rfl

theorem runDelete_effect (deletes : query.command = .delete) :
    query.Effect library (runDelete settings query library).2 := by
  have selected := select_library settings query query.subject.projectedLabels library
  obtain ⟨after, removed, final⟩ := removeAll_backed (Selection.ids_nodup _ _ _ _) library
  rw [runDelete_of_select selected removed]
  exact .removal _ deletes final

theorem runUpdate_effect (updates : query.command = .update) :
    query.Effect library (runUpdate settings query library).2 := by
  have selected := select_library settings query [] library
  cases assigns : query.subject with
  | projection labels | property name =>
    simp only [runUpdate, assigns]
    exact .none
  | assignment changes =>
    cases changing : changes.isEmpty with
    | true =>
      simp only [runUpdate, assigns, selected, changing]
      exact .none
    | false =>
      obtain ⟨after, updated, final⟩ := updateAll_backed (Selection.ids_nodup _ _ _ _) changes library
      rw [runUpdate_of_select assigns changing selected updated]
      exact .change _ updates assigns final

theorem run_effect : query.Effect library (run settings query library).2 := by
  unfold run
  split
  · exact .none
  · rename_i updates
    exact runUpdate_effect settings query library updates
  · rename_i deletes
    exact runDelete_effect settings query library deletes
  · rw [runShow_store]
    exact .none
  · exact .none

end Step

section Run

variable {settings : Settings} {queries : List Query} {library : Library}

theorem storeAfter_derives : library.Derives queries (storeAfter settings library queries) := by
  induction queries generalizing library with
  | nil => exact .refl [] library
  | cons query rest ih =>
    have first := (run_effect settings query library).derives
    exact first.trans ih

theorem storeAfter_isSome_get? (keeps : ∀ query ∈ queries, query.command ≠ .delete) (id : RecordId) :
    ((storeAfter settings library queries).get? id).isSome = (library.get? id).isSome := by
  induction queries generalizing library with
  | nil => rfl
  | cons query rest ih =>
    obtain ⟨keepsFirst, keepsRest⟩ := List.forall_mem_cons.mp keeps
    have first := (run_effect settings query library).isSome_get? keepsFirst id
    exact (ih keepsRest).trans first

theorem storeAfter_unchanged (keeps : ∀ query ∈ queries, query.command ≠ .delete)
    (reads : ∀ query ∈ queries, query.command ≠ .update) :
    storeAfter settings library queries = library := by
  induction queries generalizing library with
  | nil => rfl
  | cons query rest ih =>
    obtain ⟨keepsFirst, keepsRest⟩ := List.forall_mem_cons.mp keeps
    obtain ⟨readsFirst, readsRest⟩ := List.forall_mem_cons.mp reads
    have first := (run_effect settings query library).unchanged keepsFirst readsFirst
    rw [storeAfter, List.foldl_cons, first]
    exact ih keepsRest readsRest

end Run

/-- A text brings no record and no value into a library but the values that its updates name, wherever
    the run of its queries ends. -/
theorem execute_derives (settings : Settings) (text : String) (library : Library) :
    let after := (execute settings text library).2
    (executeAll settings text library).2 = after ∧
    (∀ cause, Query.parseAll text = .error cause → after = library) ∧
    ∀ queries, Query.parseAll text = .ok queries →
      (∀ id tag, after.get? id = some tag → ∃ before, library.get? id = some before ∧
        ∀ label, tag.entry? label = before.entry? label ∨
          ∃ query ∈ queries, ∃ value, query.Assigns label value ∧ tag.entry? label = value.map some) ∧
      ((∀ query ∈ queries, query.command ≠ .delete) →
        ∀ id, (after.get? id).isSome = (library.get? id).isSome) ∧
      ((∀ query ∈ queries, query.command ≠ .delete) → (∀ query ∈ queries, query.command ≠ .update) →
        after = library) := by
  dsimp only
  rw [execute_eq_executeAll]
  refine ⟨rfl, ?_, ?_⟩
  · intro cause unreadable
    rw [executeAll_unreadable unreadable]
  · intro queries read
    obtain ⟨started, among, left⟩ := runAll_prefix settings library queries
    have after : (executeAll settings text library).2 = storeAfter settings library started := by
      rw [executeAll_readable read, left]
    rw [after]
    refine ⟨storeAfter_derives.mono among.subset, ?_, ?_⟩
    · intro keeps
      exact storeAfter_isSome_get? fun query member => keeps query (among.subset member)
    · intro keeps reads
      have keepsStarted (query : Query) (member : query ∈ started) := keeps query (among.subset member)
      have readsStarted (query : Query) (member : query ∈ started) := reads query (among.subset member)
      exact storeAfter_unchanged keepsStarted readsStarted

end Engine

end TagQuery
