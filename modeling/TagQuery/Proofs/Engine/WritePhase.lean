import TagQuery.Proofs.Engine.Selection
import TagQuery.Proofs.Store.Backed

namespace TagQuery

theorem Selection.ids_nodup (settings : Settings) (query : Query) (labels : List String)
    (records : List Record) : (ofRecords settings query labels records).ids.Nodup := by
  rw [ofRecords, scan_eq]
  exact nodup_eraseDups _

namespace Engine

open BackedStore

variable {σ : Type} [BackedStore σ]

theorem removeAll_backed {ids : List RecordId} (distinct : ids.Nodup) (store : σ) :
    ∃ after, Store.removeAll store ids = (ids.filter (isWritable library isBroken store), after) ∧
      ∀ id, (library after).get? id =
        if id ∈ ids.filter (isWritable library isBroken store) then none else (library store).get? id := by
  obtain ⟨done, final⟩ := remove_through.bestEffort Library.remove_alters distinct store
  refine ⟨(bestEffort Store.remove store ids).2, ?_, ?_⟩
  · rw [removeAll_eq, ← done]
  · simpa only [Option.bind_fun_none] using final

theorem updateAll_backed {ids : List RecordId} (distinct : ids.Nodup) (changes : Assignments) (store : σ) :
    ∃ after, Store.updateAll store ids changes = (ids.filter (isWritable library isBroken store), after) ∧
      ∀ id, (library after).get? id =
        if id ∈ ids.filter (isWritable library isBroken store) then
          ((library store).get? id).map (·.apply changes)
        else (library store).get? id := by
  obtain ⟨done, final⟩ :=
    (update_through changes).bestEffort (Library.update_alters changes) distinct store
  refine ⟨(bestEffort (fun store id => Store.update store id changes) store ids).2, ?_, ?_⟩
  · rw [updateAll_eq, ← done]
  · intro id
    rw [final id, Option.map_eq_bind]
    rfl

section Answers

variable {settings : Settings} {query : Query} {store left after : σ} {selection : Selection}
  {changed : List RecordId}

theorem runDelete_of_select
    (selected : select settings query query.subject.projectedLabels store = (.ok selection, left))
    (removed : Store.removeAll left selection.ids = (changed, after)) :
    runDelete settings query store =
      (.ok (answerOf query.subject.projectedLabels changed selection), after) := by
  simp only [runDelete, selected, removed]

theorem runUpdate_of_select {changes : Assignments} (assigns : query.subject = .assignment changes)
    (changing : changes.isEmpty = false) (selected : select settings query [] store = (.ok selection, left))
    (updated : Store.updateAll left selection.ids changes = (changed, after)) :
    runUpdate settings query store =
      (.ok { changed, counts := selection.counts changed.length }, after) := by
  simp only [runUpdate, assigns, selected, changing, updated]
  rfl

end Answers

/-- A query that removes or changes records answers for those, and only those, of its matches of which
    the write succeeds, whatever happens to the others. -/
theorem run_writes (settings : Settings) (target : Target) (subject : Subject) (limit : UInt64)
    (changes : Assignments) {store left : σ} {records : List Record}
    (listed : Store.readRecords store = (.ok records, left)) :
    let found := Selection.chosen (settings.effectiveLimit limit).toNat
      (records.filter (target.accepts settings))
    let before := library store
    let changed := (found.map Record.id).eraseDups.filter fun id =>
      (before.get? id).isSome && !isBroken store id
    changed.Nodup ∧
    ∃ selected, run settings ⟨.select, subject, target, limit⟩ store = (.ok selected, left) ∧
      (∃ after, run settings ⟨.delete, subject, target, limit⟩ store =
          (.ok { selected with changed, counts := { selected.counts with changed := changed.length } },
            after) ∧
        ∀ id, (library after).get? id = if id ∈ changed then none else before.get? id) ∧
      (changes.isEmpty = false →
        ∃ after, run settings ⟨.update, .assignment changes, target, limit⟩ store =
            (.ok { changed, counts := { selected.counts with changed := changed.length } }, after) ∧
          ∀ id, (library after).get? id =
            if id ∈ changed then (before.get? id).map (·.apply changes) else before.get? id) := by
  intro found before changed
  have distinct : (found.map Record.id).eraseDups.Nodup := nodup_eraseDups _
  -- A store may change when it lists its records, but not in what its writes depend on.
  have same : library left = library store := by
    have kept := library_read store
    rwa [listed] at kept
  have writable : isWritable library isBroken left =
      fun id => (before.get? id).isSome && !isBroken store id := by
    have kept := isBroken_read store
    rw [listed] at kept
    funext id
    rw [isWritable, same, kept]
  refine ⟨distinct.filter _, _, run_select_of_listing listed, ?_, ?_⟩
  · obtain ⟨after, removed, final⟩ := removeAll_backed distinct left
    rw [writable] at removed final
    rw [same] at final
    exact ⟨after, runDelete_of_select (select_of_listing listed) removed, final⟩
  · intro changing
    obtain ⟨after, updated, final⟩ := updateAll_backed distinct changes left
    rw [writable] at updated final
    rw [same] at final
    have selected : select settings ⟨.update, .assignment changes, target, limit⟩ [] store =
        (.ok (.ofListing settings target [] limit records), left) := select_of_listing listed
    exact ⟨after, runUpdate_of_select rfl changing selected updated, final⟩

/-- Each of four records is listed twice here. One of the three that match is broken, and another one the
    library does not have. -/
theorem run_writes_past_faults :
    let rock : Tag := .ofList [("genre", "Rock")]
    let metal : Tag := .ofList [("genre", "Metal")]
    let target : Target := .eager (.ofList [("genre", .ofList [.text "Rock"])])
    let changes : Assignments := .ofList [("genre", some "Metal")]
    let store : FaultyLibrary :=
      { library := .ofRecords [⟨⟨"a"⟩, rock⟩, ⟨⟨"b"⟩, rock⟩, ⟨⟨"c"⟩, .ofList [("genre", "Jazz")]⟩]
        broken := .ofList [⟨"b"⟩]
        ghosts := [⟨⟨"z"⟩, rock⟩]
        repetitions := 2 }
    changes.isEmpty = false ∧ Store.readRecords store = (.ok store.listing, store) ∧
      (∃ after, run {} ⟨.delete, .everything, target, 0⟩ store =
          (.ok ⟨[.entry ⟨⟨"a"⟩, rock⟩, .entry ⟨⟨"b"⟩, rock⟩, .entry ⟨⟨"z"⟩, rock⟩], [], [⟨"a"⟩],
            ⟨8, 6, 1⟩⟩, after) ∧
        (library after).get? ⟨"a"⟩ = none ∧ (library after).get? ⟨"b"⟩ = some rock) ∧
      ∃ after, run {} ⟨.update, .assignment changes, target, 0⟩ store =
          (.ok ⟨[], [], [⟨"a"⟩], ⟨8, 6, 1⟩⟩, after) ∧
        (library after).get? ⟨"a"⟩ = some metal ∧ (library after).get? ⟨"b"⟩ = some rock := by
  intro rock metal target changes store
  have listed : Store.readRecords store = (.ok store.listing, store) := rfl
  have changing : changes.isEmpty = false := rfl
  obtain ⟨_, selected, found, ⟨afterDelete, deleted, removed⟩, update⟩ :=
    run_writes {} target .everything 0 changes listed
  obtain ⟨afterUpdate, updated, changed⟩ := update changing
  have picked : Selection.ofRecords {} ⟨.select, .everything, target, 0⟩ [] store.listing =
      ⟨[⟨⟨"a"⟩, rock⟩, ⟨⟨"b"⟩, rock⟩, ⟨⟨"z"⟩, rock⟩], [⟨"a"⟩, ⟨"b"⟩, ⟨"z"⟩], 8, 6⟩ := by decide
  have answered : run {} ⟨.select, .everything, target, 0⟩ store =
      (.ok ⟨[.entry ⟨⟨"a"⟩, rock⟩, .entry ⟨⟨"b"⟩, rock⟩, .entry ⟨⟨"z"⟩, rock⟩], [], [], ⟨8, 6, 0⟩⟩,
        store) := by
    have labels : Subject.everything.projectedLabels = [] := rfl
    simp only [run, runSelect, select, listed, Except.map, labels, picked]
    rfl
  cases found.symm.trans answered
  have writable : ((Selection.chosen (({} : Settings).effectiveLimit 0).toNat
      (store.listing.filter (target.accepts {}))).map Record.id).eraseDups.filter
      (fun id => ((library store).get? id).isSome && !isBroken store id) = [⟨"a"⟩] := by decide
  simp only [writable] at deleted removed updated changed
  refine ⟨changing, listed, ⟨afterDelete, deleted, ?_, ?_⟩, afterUpdate, updated, ?_, ?_⟩
  · rw [removed]
    rfl
  · rw [removed]
    decide
  · rw [changed]
    decide
  · rw [changed]
    decide

end Engine

end TagQuery
