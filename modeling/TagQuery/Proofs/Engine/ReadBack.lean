import TagQuery.Proofs.Answer
import TagQuery.Proofs.Engine.Updating

namespace TagQuery

/-- The strict target of what has been assigned: a value where one was set, none where one was cleared. -/
def Target.assigned (changes : Assignments) : Target := strict (changes.mapValues .ofValue)

theorem Target.accepts_assigned_iff {settings : Settings} {changes : Assignments} {record : Record} :
    (assigned changes).accepts settings record ↔
      ∀ entry ∈ changes.entries, record.satisfies settings entry.1 (.ofValue entry.2) := by
  simp only [assigned, accepts, OrderedMap.mapValues, List.all_map, List.all_eq_true, Function.comp_apply]

theorem Target.accepts_assigned_apply (settings : Settings) (changes : Assignments) (id : RecordId) (tag : Tag) :
    (assigned changes).accepts settings ⟨id, tag.apply changes⟩ := by
  apply accepts_assigned_iff.mpr
  intro entry listed
  have held := tag.get?_apply_assigned (OrderedMap.get?_of_mem listed)
  simp [Record.satisfies, held]

namespace Engine

variable (settings : Settings) (target : Target) (limit : UInt64) (library : Library)

theorem run_select_ids (subject : Subject) :
    ∃ answer, run settings ⟨.select, subject, target, limit⟩ library = (.ok answer, library) ∧
      answer.entries.map Answer.Entry.id = library.foundIds settings target limit := by
  refine ⟨_, run_select_found settings target limit library subject, ?_⟩
  simp [Library.foundIds, Record.entry]

theorem run_update_changed (changes : Assignments) :
    ∃ answer after, run settings ⟨.update, .assignment changes, target, limit⟩ library = (.ok answer, after) ∧
      answer.changed = (if changes.isEmpty then [] else library.foundIds settings target limit) ∧
      (∀ id ∈ answer.changed, ∃ tag, library.get? id = some tag ∧ after.get? id = some (tag.apply changes)) ∧
      ∀ id ∉ answer.changed, after.get? id = library.get? id := by
  obtain ⟨after, ran, final⟩ := run_update_found settings target limit library changes
  refine ⟨_, after, ran, rfl, ?_⟩
  cases changing : changes.isEmpty with
  | true =>
    simp only [Tag.apply_of_isEmpty _ changing, Option.map_id', ite_self] at final
    exact ⟨fun id reported => absurd reported List.not_mem_nil, fun id _ => final id⟩
  | false =>
    constructor
    · intro id reported
      have found : id ∈ library.foundIds settings target limit := reported
      obtain ⟨tag, held, _⟩ := library.exists_of_mem_foundIds settings target limit found
      refine ⟨tag, held, ?_⟩
      rw [final, if_pos found, held]
      rfl
    · intro id unreported
      exact (final id).trans (if_neg unreported)

/-- What an update has assigned is found again in the records that it reports, and nothing else has changed. -/
theorem update_read_back (changes : Assignments) (unlimited : settings.defaultLimit = 0) :
    ∃ answer after, run settings ⟨.update, .assignment changes, target, limit⟩ library = (.ok answer, after) ∧
      answer.changed = (if changes.isEmpty then [] else library.foundIds settings target limit) ∧
      (∀ id ∈ answer.changed, ∃ tag altered, library.get? id = some tag ∧ after.get? id = some altered ∧
        (Target.assigned changes).accepts settings ⟨id, altered⟩ ∧
        (∀ label ∉ changes.keys, altered.entry? label = tag.entry? label) ∧
        ∀ label, changes.get? label = some none → altered.contains label = false) ∧
      (∀ id ∉ answer.changed, after.get? id = library.get? id) ∧
      ∀ subject, ∃ selected,
        run settings ⟨.select, subject, .assigned changes, 0⟩ after = (.ok selected, after) ∧
        answer.changed.Sublist (selected.entries.map Answer.Entry.id) := by
  obtain ⟨answer, after, ran, changed, altered, kept⟩ := run_update_changed settings target limit library changes
  refine ⟨answer, after, ran, changed, ?_, kept, ?_⟩
  · intro id reported
    obtain ⟨tag, held, now⟩ := altered id reported
    refine ⟨tag, tag.apply changes, held, now, ?_, ?_, ?_⟩
    · exact Target.accepts_assigned_apply settings changes id tag
    · intro label unassigned
      exact tag.entry_apply_unassigned unassigned
    · intro label cleared
      exact tag.contains_apply_cleared cleared
  · intro subject
    obtain ⟨selected, selecting, ids⟩ := run_select_ids settings (.assigned changes) 0 after subject
    refine ⟨selected, selecting, ?_⟩
    have bound : settings.effectiveLimit 0 = 0 := unlimited
    rw [ids, after.foundIds_unlimited _ bound]
    apply Library.sublist_matchingIds
    · rw [changed]
      split
      · exact .nil
      · exact library.foundIds_ascending settings target limit
    · intro id reported
      obtain ⟨tag, _, now⟩ := altered id reported
      have accepted := Target.accepts_assigned_apply settings changes id tag
      exact (after.mem_matchingIds_iff settings _ id).mpr ⟨tag.apply changes, now, accepted⟩

theorem update_read_back_limited :
    let record (path : String) (tag : Tag) : Record := ⟨⟨path⟩, tag⟩
    let library : Library := .ofRecords
      [record "a" (.ofList [("artist", "Muse"), ("mood", "calm")]), record "b" (.ofList [("artist", "Muse")]),
        record "c" (.ofList [("path", "d")])]
    let target : Target := .strict (.ofList [("artist", .text "Muse")])
    let changes : Assignments := .ofList [("mood", none), ("path", some "d"), ("year", none)]
    let update : Query := ⟨.update, .assignment changes, target, 1⟩
    ({} : Settings).defaultLimit = 0 ∧
      ∃ answer after, run {} update library = (.ok answer, after) ∧ answer.changed = [⟨"a"⟩] ∧
        after.records = [record "a" (.ofList [("artist", "Muse"), ("path", "d")]),
          record "b" (.ofList [("artist", "Muse")]), record "c" (.ofList [("path", "d")])] ∧
        (∀ id ∉ answer.changed, after.get? id = library.get? id) ∧
        ∃ selected, run {} ⟨.select, .everything, .assigned changes, 0⟩ after = (.ok selected, after) ∧
          answer.changed.Sublist (selected.entries.map Answer.Entry.id) := by
  intro record library target changes update
  have unlimited : ({} : Settings).defaultLimit = 0 := rfl
  obtain ⟨answer, after, ran, changed, _, kept, selecting⟩ := update_read_back {} target 1 library changes unlimited
  have found : (if changes.isEmpty then [] else library.foundIds {} target 1) = [⟨"a"⟩] := by decide
  have records : (run {} update library).2.records =
      [record "a" (.ofList [("artist", "Muse"), ("path", "d")]), record "b" (.ofList [("artist", "Muse")]),
        record "c" (.ofList [("path", "d")])] := by decide
  rw [ran] at records
  exact ⟨unlimited, answer, after, ran, changed.trans found, records, kept, selecting .everything⟩

end Engine

end TagQuery
