import TagQuery.Proofs.Engine.WritePhase
import TagQuery.Proofs.Query.Layout
import TagQuery.Proofs.Tag

namespace TagQuery

@[simp] theorem Target.accepts_only {settings : Settings} {record : Record} {label : String}
    {requirement : Requirement} {mode : Mode} :
    (only label requirement mode).accepts settings record = record.satisfies settings label requirement := by
  cases mode with
  | strict => exact Bool.and_true _
  | eager =>
    change (false || ((record.satisfies settings label requirement || false) || false)) = _
    simp only [Bool.false_or, Bool.or_false]

namespace Target

/-- What a target asks for as a whole, whatever it takes for one of its pairs to hold. -/
def Asks (holds : String × Requirement → Prop) : Target → Prop
  | eager labels => labels.isEmpty ∨ ∃ content ∈ (eager labels).contents, holds content
  | strict labels => ∀ content ∈ (strict labels).contents, holds content

theorem asks_congr {target : Target} {holds other : String × Requirement → Prop}
    (same : ∀ content ∈ target.contents, holds content ↔ other content) :
    target.Asks holds ↔ target.Asks other := by
  cases target with
  | eager labels => exact or_congr_right (exists_congr fun content => and_congr_right (same content))
  | strict labels => exact forall_congr' fun content => forall_congr' (same content)

theorem accepts_iff_asks {settings : Settings} {target : Target} {record : Record} :
    target.accepts settings record ↔
      target.Asks fun content => record.satisfies settings content.1 content.2 := by
  cases target with
  | strict labels => exact List.all_eq_true
  | eager labels =>
    rw [accepts, Bool.or_eq_true, List.any_eq_true]
    apply or_congr_right
    simp only [List.any_eq_true, contents, List.mem_flatMap, List.mem_map]
    constructor
    · intro found
      obtain ⟨entry, listed, requirement, given, satisfied⟩ := found
      exact ⟨(entry.1, requirement), ⟨entry, listed, requirement, given, rfl⟩, satisfied⟩
    · intro found
      obtain ⟨content, ⟨entry, listed, requirement, given, same⟩, satisfied⟩ := found
      subst same
      exact ⟨entry, listed, requirement, given, satisfied⟩

def labels : Target → List String
  | eager labels => labels.keys
  | strict labels => labels.keys

theorem mem_labels_of_mem_contents {target : Target} {content : String × Requirement}
    (listed : content ∈ target.contents) : content.1 ∈ target.labels := by
  cases target with
  | strict labels => exact List.mem_map_of_mem listed
  | eager labels =>
    obtain ⟨entry, member, given⟩ := List.mem_flatMap.mp listed
    obtain ⟨requirement, _, same⟩ := List.mem_map.mp given
    subst same
    exact List.mem_map_of_mem member

theorem accepts_congr {settings : Settings} {target : Target} {id : RecordId} {tag other : Tag}
    (same : ∀ label ∈ target.labels, tag.get? label = other.get? label) :
    target.accepts settings ⟨id, tag⟩ = target.accepts settings ⟨id, other⟩ := by
  apply Bool.eq_iff_iff.mpr
  rw [accepts_iff_asks, accepts_iff_asks]
  apply asks_congr
  intro content listed
  rw [Record.satisfies, Record.satisfies, same _ (mem_labels_of_mem_contents listed)]

end Target

/-- The tag that an update without a limit leaves to a record. -/
def Record.updated (settings : Settings) (target : Target) (changes : Assignments) (record : Record) : Tag :=
  if target.accepts settings record then record.tag.apply changes else record.tag

namespace Library

def matching (settings : Settings) (target : Target) (library : Library) : List Record :=
  library.records.filter (target.accepts settings)

def matchingIds (settings : Settings) (target : Target) (library : Library) : List RecordId :=
  (library.matching settings target).map Record.id

variable (settings : Settings) (target : Target) (library : Library)

@[simp] theorem mem_matchingIds_iff (id : RecordId) :
    id ∈ library.matchingIds settings target ↔
      ∃ tag, library.get? id = some tag ∧ target.accepts settings ⟨id, tag⟩ :=
  library.mem_filter_ids_iff (target.accepts settings) id

theorem matchingIds_ascending : (library.matchingIds settings target).Pairwise (· < ·) :=
  library.filter_ids_ascending (target.accepts settings)

theorem matchingIds_nodup : (library.matchingIds settings target).Nodup :=
  RecordId.nodup_of_ascending (library.matchingIds_ascending settings target)

theorem get?_updated {changes : Assignments} {after : Library}
    (updated : ∀ id, after.get? id =
      if id ∈ library.matchingIds settings target then (library.get? id).map (·.apply changes)
      else library.get? id) (id : RecordId) :
    after.get? id = (library.get? id).map fun tag => Record.updated settings target changes ⟨id, tag⟩ := by
  have listed := library.mem_matchingIds_iff settings target id
  rw [updated]
  cases held : library.get? id with
  | none => exact ite_self none
  | some tag =>
    have member : id ∈ library.matchingIds settings target ↔ target.accepts settings ⟨id, tag⟩ := by
      simp [listed, held]
    by_cases accepted : target.accepts settings ⟨id, tag⟩ <;> simp [Record.updated, member, accepted]

@[simp] theorem matching_everything : library.matching settings .everything = library.records := by
  apply List.filter_eq_self.mpr
  intro record _
  rfl

theorem matching_removed {after : Library} {ids : List RecordId}
    (removed : ∀ id, after.get? id = if id ∈ ids then none else library.get? id) :
    after.matching settings target = (library.matching settings target).filter (·.id ∉ ids) := by
  rw [matching, records_removed removed, List.filter_filter, matching, List.filter_filter]
  simp only [Bool.and_comm]

theorem matching_eq_nil {after : Library}
    (removed : ∀ id, after.get? id =
      if id ∈ library.matchingIds settings target then none else library.get? id) :
    after.matching settings target = [] := by
  rw [matching_removed settings target library removed]
  apply List.filter_eq_nil_iff.mpr
  intro record member kept
  exact of_decide_eq_true kept (List.mem_map_of_mem member)

section Found

variable (settings : Settings) (target : Target) (limit : UInt64) (library : Library)

/-- What a query finds under its limit: the first of the matches, or all of them without a limit. -/
def found : List Record :=
  Selection.chosen (settings.effectiveLimit limit).toNat (library.matching settings target)

def foundIds : List RecordId := (library.found settings target limit).map Record.id

theorem found_sublist :
    (library.found settings target limit).Sublist (library.matching settings target) :=
  Selection.chosen_sublist _ _

theorem foundIds_sublist :
    (library.foundIds settings target limit).Sublist (library.matchingIds settings target) :=
  (library.found_sublist settings target limit).map Record.id

theorem foundIds_ascending : (library.foundIds settings target limit).Pairwise (· < ·) :=
  (library.matchingIds_ascending settings target).sublist (library.foundIds_sublist settings target limit)

theorem foundIds_nodup : (library.foundIds settings target limit).Nodup :=
  (library.matchingIds_nodup settings target).sublist (library.foundIds_sublist settings target limit)

theorem exists_of_mem_foundIds {id : RecordId} (member : id ∈ library.foundIds settings target limit) :
    ∃ tag, library.get? id = some tag ∧ target.accepts settings ⟨id, tag⟩ := by
  have matching := (library.foundIds_sublist settings target limit).subset member
  exact (library.mem_matchingIds_iff settings target id).mp matching

variable {settings} {limit}

theorem found_unlimited (unlimited : settings.effectiveLimit limit = 0) :
    library.found settings target limit = library.matching settings target := by
  rw [found, unlimited]
  rfl

theorem foundIds_unlimited (unlimited : settings.effectiveLimit limit = 0) :
    library.foundIds settings target limit = library.matchingIds settings target := by
  rw [foundIds, library.found_unlimited target unlimited, matchingIds]

end Found

end Library

namespace Engine

theorem execute_of_single {σ : Type} [Store σ] {settings : Settings} {text : String} {query : Query}
    (read : Query.parseAll text = .ok [query]) (store : σ) :
    execute settings text store = run settings query store := by
  simp only [execute, read, runLast]
  cases run settings query store with
  | mk outcome after => cases outcome <;> rfl

section Found

variable (settings : Settings) (target : Target) (limit : UInt64) (library : Library)

theorem foundIds_writable :
    (library.foundIds settings target limit).filter
      (isWritable BackedStore.library BackedStore.isBroken library) =
        library.foundIds settings target limit := by
  apply List.filter_eq_self.mpr
  intro id member
  obtain ⟨tag, held, _⟩ := library.exists_of_mem_foundIds settings target limit member
  change ((library.get? id).isSome && !false) = true
  rw [held]
  rfl

theorem removeAll_foundIds :
    ∃ after, Store.removeAll library (library.foundIds settings target limit) =
        (library.foundIds settings target limit, after) ∧
      ∀ id, after.get? id =
        if id ∈ library.foundIds settings target limit then none else library.get? id := by
  obtain ⟨after, removed, final⟩ :=
    removeAll_backed (library.foundIds_nodup settings target limit) library
  rw [foundIds_writable] at removed final
  exact ⟨after, removed, final⟩

theorem updateAll_foundIds (changes : Assignments) :
    ∃ after, Store.updateAll library (library.foundIds settings target limit) changes =
        (library.foundIds settings target limit, after) ∧
      ∀ id, after.get? id =
        if id ∈ library.foundIds settings target limit then (library.get? id).map (·.apply changes)
        else library.get? id := by
  obtain ⟨after, updated, final⟩ :=
    updateAll_backed (library.foundIds_nodup settings target limit) changes library
  rw [foundIds_writable] at updated final
  exact ⟨after, updated, final⟩

def looked : Nat :=
  Selection.reach (settings.effectiveLimit limit).toNat (target.accepts settings) library.records

theorem looked_unlimited {settings : Settings} {limit : UInt64} (unlimited : settings.effectiveLimit limit = 0) :
    looked settings target limit library = library.records.length := by
  rw [looked, unlimited]
  rfl

theorem select_found (command : Command) (subject : Subject) (labels : List String) :
    select settings ⟨command, subject, target, limit⟩ labels library =
      (.ok
        { entries := (library.found settings target limit).map (Record.entry settings labels)
          ids := library.foundIds settings target limit
          scanned := looked settings target limit library
          matched := (library.found settings target limit).length }, library) := by
  have listed : Store.readRecords library = (.ok library.records, library) := rfl
  have distinct := library.foundIds_nodup settings target limit
  -- No two records have one id, so there are no repeats to drop.
  have distinctEntries :
      ((library.found settings target limit).map (Record.entry settings labels)).Nodup := by
    apply List.pairwise_map.mpr
    apply List.Pairwise.imp _ (List.pairwise_map.mp distinct)
    intro earlier later different same
    exact different (congrArg Answer.Entry.id same)
  rw [select_of_listing listed]
  simp only [Selection.ofListing, Selection.ofMatches]
  rw [← Library.matching, ← Library.found, ← Library.foundIds, eraseDups_of_nodup distinctEntries,
    eraseDups_of_nodup distinct, ite_self]
  rfl

theorem run_select_found (subject : Subject) :
    run settings ⟨.select, subject, target, limit⟩ library =
      (.ok
        { items := (library.found settings target limit).map fun record =>
            .entry (record.entry settings subject.projectedLabels)
          columns := subject.projectedLabels
          counts := ⟨looked settings target limit library,
            (library.found settings target limit).length, 0⟩ }, library) := by
  have selected := select_found settings target limit library .select subject subject.projectedLabels
  simp only [run, runSelect, selected, Except.map, answerOf, Selection.counts, List.map_map,
    List.length_nil]
  rfl

theorem run_delete_found (subject : Subject) :
    ∃ after, run settings ⟨.delete, subject, target, limit⟩ library =
        (.ok
          { items := (library.found settings target limit).map fun record =>
              .entry (record.entry settings subject.projectedLabels)
            columns := subject.projectedLabels
            changed := library.foundIds settings target limit
            counts := ⟨looked settings target limit library,
              (library.found settings target limit).length,
              (library.found settings target limit).length⟩ }, after) ∧
      ∀ id, after.get? id =
        if id ∈ library.foundIds settings target limit then none else library.get? id := by
  have selected := select_found settings target limit library .delete subject subject.projectedLabels
  obtain ⟨after, removed, final⟩ := removeAll_foundIds settings target limit library
  refine ⟨after, ?_, final⟩
  change runDelete settings ⟨.delete, subject, target, limit⟩ library = _
  rw [runDelete_of_select selected removed]
  simp only [answerOf, Selection.counts, List.map_map, Library.foundIds, List.length_map]
  rfl

theorem run_update_found (changes : Assignments) :
    ∃ after, run settings ⟨.update, .assignment changes, target, limit⟩ library =
        (.ok
          (let changed := if changes.isEmpty then [] else library.foundIds settings target limit
           { changed
             counts := ⟨looked settings target limit library,
               (library.foundIds settings target limit).length, changed.length⟩ }), after) ∧
      ∀ id, after.get? id =
        if id ∈ library.foundIds settings target limit then (library.get? id).map (·.apply changes)
        else library.get? id := by
  have selected := select_found settings target limit library .update (.assignment changes) []
  change ∃ after, runUpdate settings ⟨.update, .assignment changes, target, limit⟩ library = _ ∧ _
  cases changing : changes.isEmpty with
  | true =>
    refine ⟨library, ?_, fun id => ?_⟩
    · simp only [runUpdate, selected, changing, Selection.counts, Library.foundIds, List.length_map]
      rfl
    · simp only [Tag.apply_of_isEmpty _ changing, Option.map_id', ite_self]
  | false =>
    obtain ⟨after, updated, final⟩ := updateAll_foundIds settings target limit library changes
    refine ⟨after, ?_, final⟩
    rw [runUpdate_of_select rfl changing selected updated]
    simp [Selection.counts, Library.foundIds]

end Found

section Unlimited

variable {settings : Settings} (unlimited : settings.defaultLimit = 0) (target : Target)
  (labels : List String) (library : Library)

include unlimited

theorem run_select_unlimited :
    run settings ⟨.select, .projection labels, target, 0⟩ library =
      (.ok
        { items := (library.matching settings target).map fun record => .entry (record.entry settings labels)
          columns := labels
          counts := ⟨library.records.length, (library.matching settings target).length, 0⟩ }, library) := by
  have bound : settings.effectiveLimit 0 = 0 := unlimited
  have selected := run_select_found settings target 0 library (.projection labels)
  rwa [looked_unlimited target library bound, library.found_unlimited target bound] at selected

theorem run_deletion_unlimited (subject : Subject) :
    ∃ after, run settings ⟨.delete, subject, target, 0⟩ library =
        (.ok
          { items := (library.matching settings target).map fun record =>
              .entry (record.entry settings subject.projectedLabels)
            columns := subject.projectedLabels
            changed := library.matchingIds settings target
            counts := ⟨library.records.length, (library.matching settings target).length,
              (library.matching settings target).length⟩ }, after) ∧
      ∀ id, after.get? id =
        if id ∈ library.matchingIds settings target then none else library.get? id := by
  have bound : settings.effectiveLimit 0 = 0 := unlimited
  have deleted := run_delete_found settings target 0 library subject
  rwa [looked_unlimited target library bound, library.found_unlimited target bound,
    library.foundIds_unlimited target bound] at deleted

theorem run_delete_unlimited :
    ∃ after, run settings ⟨.delete, .projection labels, target, 0⟩ library =
        (.ok
          { items := (library.matching settings target).map fun record => .entry (record.entry settings labels)
            columns := labels
            changed := library.matchingIds settings target
            counts := ⟨library.records.length, (library.matching settings target).length,
              (library.matching settings target).length⟩ }, after) ∧
      ∀ id, after.get? id =
        if id ∈ library.matchingIds settings target then none else library.get? id :=
  run_deletion_unlimited unlimited target library (.projection labels)

theorem run_update_unlimited (changes : Assignments) :
    ∃ after, run settings ⟨.update, .assignment changes, target, 0⟩ library =
        (.ok
          (let changed := if changes.isEmpty then [] else library.matchingIds settings target
           { changed
             counts := ⟨library.records.length, (library.matchingIds settings target).length,
               changed.length⟩ }), after) ∧
      ∀ id, after.get? id = (library.get? id).map fun tag => Record.updated settings target changes ⟨id, tag⟩ := by
  have bound : settings.effectiveLimit 0 = 0 := unlimited
  obtain ⟨after, ran, final⟩ := run_update_found settings target 0 library changes
  rw [looked_unlimited target library bound, library.foundIds_unlimited target bound] at ran
  rw [library.foundIds_unlimited target bound] at final
  exact ⟨after, ran, library.get?_updated settings target final⟩

end Unlimited

end Engine

end TagQuery
