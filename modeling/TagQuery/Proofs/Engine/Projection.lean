import TagQuery.Proofs.Answer.Views
import TagQuery.Proofs.Engine.Selection

namespace TagQuery

namespace Engine

variable {σ : Type} [Store σ] {settings : Settings} {query : Query} {store after : σ} {answer : Answer}

theorem answer_of_run (reads : query.command = .select ∨ query.command = .delete)
    (ran : run settings query store = (.ok answer, after)) :
    ∃ records left found, Store.readRecords store = (.ok records, left) ∧
      found.Sublist (records.filter (query.target.accepts settings)) ∧
      answer.items = (entriesOf settings query.subject.projectedLabels found).map .entry ∧
      answer.columns = query.subject.projectedLabels := by
  obtain ⟨command, subject, target, limit⟩ := query
  cases listing : Store.readRecords store with
  | mk outcome left =>
    cases outcome with
    | error cause =>
      rcases reads with selects | deletes
      · cases selects
        simp [run, runSelect, select, listing, Except.map] at ran
      · cases deletes
        simp [run, runDelete, select, listing, Except.map] at ran
    | ok records =>
      refine ⟨records, left, Selection.chosen (settings.effectiveLimit limit).toNat _, rfl,
        Selection.chosen_sublist _ _, ?_⟩
      rcases reads with selects | deletes
      · cases selects
        cases (run_select_of_listing listing).symm.trans ran
        exact ⟨rfl, rfl⟩
      · cases deletes
        cases (run_delete_of_listing listing).symm.trans ran
        exact ⟨rfl, rfl⟩

/-- The entries of an answer, its headers, its table and its JSON tell one story. Every entry has the labels asked
    for, or the whole tag, of an accepted record; the headers are these labels, or all labels of the entries where
    they come up first; and the table has in its cells what the JSON has at the same places. -/
theorem run_views (reads : query.command = .select ∨ query.command = .delete)
    (ran : run settings query store = (.ok answer, after)) :
    let labels := query.subject.projectedLabels
    (∃ records left shown, Store.readRecords store = (.ok records, left) ∧ shown.Sublist records ∧
      (∀ record ∈ shown, query.target.accepts settings record) ∧
      List.Forall₂ (Answer.Entry.Keeps settings labels) answer.entries shown) ∧
    (labels ≠ [] → answer.headers = labels) ∧
    (labels = [] → Answer.FirstSeen answer.entries answer.headers) ∧
    answer.Shown := by
  intro labels
  obtain ⟨records, left, found, listed, among, items, columns⟩ := answer_of_run reads ran
  have entries : answer.entries = entriesOf settings labels found := by
    rw [Answer.entries, items, Answer.filterMap_entry]
  obtain ⟨shown, few, same⟩ := List.sublist_map_iff.mp (entriesOf_sublist settings labels found)
  refine ⟨⟨records, left, shown, listed, ?_, ?_, ?_⟩, fun some => ?_, fun none => ?_, ?_⟩
  · exact (few.trans among).trans List.filter_sublist
  · intro record member
    exact (List.mem_filter.mp ((few.trans among).subset member)).2
  · rw [entries, same, List.forall₂_map_left_iff, List.forall₂_same]
    exact fun record _ => Answer.Entry.keeps_entry settings labels record
  · rw [Answer.headers, columns, if_neg some]
  · exact Answer.headers_firstSeen (columns.trans none)
  · exact Answer.shown_of_entries (by rw [items, entries])

theorem run_views_repeated :
    let settings : Settings := {}
    let query : Query := ⟨.select, .projection ["title", "path", "title"], .everything, 0⟩
    let library : Library := .ofRecords [⟨⟨"a"⟩, .ofList [("title", "Muscle")]⟩, ⟨⟨"b"⟩, ∅⟩]
    ∃ answer, run settings query library = (.ok answer, library) ∧
      answer.headers = ["title", "path", "title"] ∧
      answer.cells = [["id", "title", "path", "title"], ["a", "Muscle", "a", "Muscle"], ["b", "-", "b", "-"]] ∧
      answer.jsonCell 1 "path" = "b" ∧ answer.Shown := by
  intro settings query library
  have ran : run settings query library = (.ok _, library) := rfl
  obtain ⟨-, headers, -, shown⟩ := run_views (.inl rfl) ran
  exact ⟨_, ran, headers (by decide), by decide, by decide, shown⟩

end Engine

end TagQuery
