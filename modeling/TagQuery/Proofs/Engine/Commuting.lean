import Mathlib.Data.List.Sort
import TagQuery.Proofs.Engine.Filter
import TagQuery.Proofs.Engine.Sequence

namespace TagQuery

@[simp] theorem Settings.effectiveLimit_eq_zero_iff {settings : Settings} {limit : UInt64} :
    settings.effectiveLimit limit = 0 ↔ limit = 0 ∧ settings.defaultLimit = 0 := by
  unfold effectiveLimit
  split
  · rename_i unstated
    exact (and_iff_right unstated).symm
  · rename_i stated
    exact (and_iff_left_of_imp fun none => absurd none stated).symm

section Apart

variable {settings : Settings} {target : Target} {changes : Assignments}
  (apart : ∀ label ∈ changes.keys, label ∉ target.labels)

include apart

theorem Target.accepts_apply (id : RecordId) (tag : Tag) :
    target.accepts settings ⟨id, tag.apply changes⟩ = target.accepts settings ⟨id, tag⟩ := by
  apply accepts_congr
  intro label named
  exact tag.get?_apply_unassigned fun assigned => apart label assigned named

theorem Target.accepts_updated (updating : Target) (record : Record) :
    target.accepts settings ⟨record.id, record.updated settings updating changes⟩ =
      target.accepts settings record := by
  unfold Record.updated
  split
  · exact accepts_apply apart record.id record.tag
  · rfl

end Apart

section Updated

variable {settings : Settings} {target updating : Target} {changes : Assignments} {library after : Library}
  (updated : ∀ id, after.get? id =
    (library.get? id).map fun tag => Record.updated settings updating changes ⟨id, tag⟩)

include updated

theorem Library.matchingIds_updated (apart : ∀ label ∈ changes.keys, label ∉ target.labels) :
    after.matchingIds settings target = library.matchingIds settings target := by
  have ascending := library.matchingIds_ascending settings target
  apply (after.matchingIds_ascending settings target).eq_of_mem_iff ascending
  intro id
  have accepted (tag : Tag) :
      target.accepts settings ⟨id, Record.updated settings updating changes ⟨id, tag⟩⟩ =
        target.accepts settings ⟨id, tag⟩ := Target.accepts_updated apart updating ⟨id, tag⟩
  rw [mem_matchingIds_iff, mem_matchingIds_iff, updated]
  cases library.get? id with
  | none => rfl
  | some tag => simp [accepted]

theorem Library.length_records_updated : after.records.length = library.records.length := by
  have named : ∀ label ∈ changes.keys, label ∉ Target.everything.labels := fun _ _ => List.not_mem_nil
  have same := congrArg List.length (matchingIds_updated updated named)
  simpa [matchingIds] using same

end Updated

section Order

variable {settings : Settings} {target otherTarget : Target} {changes others : Assignments}
  (apart : ∀ label ∈ changes.keys, label ∉ otherTarget.labels)

include apart

theorem Record.updated_updated (record : Record) :
    updated settings otherTarget others ⟨record.id, record.updated settings target changes⟩ =
      if otherTarget.accepts settings record then (record.updated settings target changes).apply others
      else record.updated settings target changes := by
  rw [← Target.accepts_updated apart target record]
  rfl

theorem Record.updated_comm (otherApart : ∀ label ∈ others.keys, label ∉ target.labels)
    (disjoint : ∀ label ∈ changes.keys, label ∉ others.keys) (record : Record) :
    updated settings otherTarget others ⟨record.id, record.updated settings target changes⟩ =
      updated settings target changes ⟨record.id, record.updated settings otherTarget others⟩ := by
  rw [updated_updated apart, updated_updated otherApart]
  unfold updated
  by_cases taken : target.accepts settings record <;>
    by_cases otherTaken : otherTarget.accepts settings record <;>
    simp [taken, otherTaken]
  -- only a record that both take is left
  exact record.tag.apply_comm disjoint

end Order

namespace Engine

section Unlimited

variable {settings : Settings} (unlimited : settings.defaultLimit = 0) {target otherTarget : Target}
  {changes : Assignments} (apart : ∀ label ∈ changes.keys, label ∉ otherTarget.labels) (library : Library)

include unlimited apart

theorem updates_commute {others : Assignments} (otherApart : ∀ label ∈ others.keys, label ∉ target.labels)
    (disjoint : ∀ label ∈ changes.keys, label ∉ others.keys) :
    let update : Query := ⟨.update, .assignment changes, target, 0⟩
    let other : Query := ⟨.update, .assignment others, otherTarget, 0⟩
    storeAfter settings library [update, other] = storeAfter settings library [other, update] ∧
      ∃ answer otherAnswer,
        outcomes settings library [update, other] = [.ok answer, .ok otherAnswer] ∧
        outcomes settings library [other, update] = [.ok otherAnswer, .ok answer] := by
  intro update other
  obtain ⟨middle, ran, updated⟩ := run_update_unlimited unlimited target library changes
  obtain ⟨after, ranOther, final⟩ := run_update_unlimited unlimited otherTarget middle others
  obtain ⟨otherMiddle, otherRan, otherUpdated⟩ := run_update_unlimited unlimited otherTarget library others
  obtain ⟨otherAfter, otherRanNext, otherFinal⟩ :=
    run_update_unlimited unlimited target otherMiddle changes
  rw [Library.matchingIds_updated updated apart, Library.length_records_updated updated] at ranOther
  rw [Library.matchingIds_updated otherUpdated otherApart,
    Library.length_records_updated otherUpdated] at otherRanNext
  have same : after = otherAfter := by
    apply Library.ext_get?
    intro id
    rw [final, updated, otherFinal, otherUpdated, Option.map_map, Option.map_map]
    apply congrArg (Option.map · (library.get? id))
    funext tag
    exact Record.updated_comm apart otherApart disjoint ⟨id, tag⟩
  subst same
  refine ⟨?_, _, _, outcomes_pair ran ranOther, outcomes_pair otherRan otherRanNext⟩
  rw [storeAfter_pair ran ranOther, storeAfter_pair otherRan otherRanNext]

theorem update_and_deletion_commute (subject : Subject) :
    let update : Query := ⟨.update, .assignment changes, target, 0⟩
    let deletion : Query := ⟨.delete, subject, otherTarget, 0⟩
    storeAfter settings library [update, deletion] = storeAfter settings library [deletion, update] ∧
      ∃ answer removal otherRemoval otherAnswer,
        outcomes settings library [update, deletion] = [.ok answer, .ok removal] ∧
        outcomes settings library [deletion, update] = [.ok otherRemoval, .ok otherAnswer] ∧
        removal.changed = otherRemoval.changed := by
  intro update deletion
  obtain ⟨middle, ran, updated⟩ := run_update_unlimited unlimited target library changes
  obtain ⟨after, deleted, final⟩ := run_deletion_unlimited unlimited otherTarget middle subject
  obtain ⟨left, deletedFirst, removed⟩ := run_deletion_unlimited unlimited otherTarget library subject
  obtain ⟨otherAfter, ranNext, otherFinal⟩ := run_update_unlimited unlimited target left changes
  have matching := Library.matchingIds_updated updated apart
  have same : after = otherAfter := by
    apply Library.ext_get?
    intro id
    rw [final, updated, otherFinal, removed, matching]
    split
    · rfl
    · rfl
  subst same
  refine ⟨?_, _, _, _, _, outcomes_pair ran deleted, outcomes_pair deletedFirst ranNext, matching⟩
  rw [storeAfter_pair ran deleted, storeAfter_pair deletedFirst ranNext]

end Unlimited

/-- Two writes without a limit can be exchanged where neither assigns a label that the other one names or
    assigns: in either order they leave the same records. -/
theorem unlimited_writes_commute (settings : Settings) (library : Library) (target otherTarget : Target)
    (changes : Assignments) (limit otherLimit : UInt64)
    (unlimited : settings.effectiveLimit limit = 0) (otherUnlimited : settings.effectiveLimit otherLimit = 0)
    (apart : ∀ label ∈ changes.keys, label ∉ otherTarget.labels) :
    let update : Query := ⟨.update, .assignment changes, target, limit⟩
    (∀ others : Assignments, (∀ label ∈ others.keys, label ∉ changes.keys ∧ label ∉ target.labels) →
      let other : Query := ⟨.update, .assignment others, otherTarget, otherLimit⟩
      storeAfter settings library [update, other] = storeAfter settings library [other, update] ∧
        ∃ answer otherAnswer,
          outcomes settings library [update, other] = [.ok answer, .ok otherAnswer] ∧
          outcomes settings library [other, update] = [.ok otherAnswer, .ok answer]) ∧
    ∀ subject : Subject,
      let deletion : Query := ⟨.delete, subject, otherTarget, otherLimit⟩
      storeAfter settings library [update, deletion] = storeAfter settings library [deletion, update] ∧
        ∃ answer removal otherRemoval otherAnswer,
          outcomes settings library [update, deletion] = [.ok answer, .ok removal] ∧
          outcomes settings library [deletion, update] = [.ok otherRemoval, .ok otherAnswer] ∧
          removal.changed = otherRemoval.changed := by
  obtain ⟨unstated, unlimitedDefault⟩ := Settings.effectiveLimit_eq_zero_iff.mp unlimited
  obtain ⟨otherUnstated, _⟩ := Settings.effectiveLimit_eq_zero_iff.mp otherUnlimited
  subst unstated otherUnstated
  intro update
  constructor
  · intro others separate
    have disjoint : ∀ label ∈ changes.keys, label ∉ others.keys := by
      intro label assigned again
      exact (separate label again).1 assigned
    have otherApart (label : String) (assigned : label ∈ others.keys) := (separate label assigned).2
    exact updates_commute unlimitedDefault apart library otherApart disjoint
  · exact update_and_deletion_commute unlimitedDefault apart library

theorem unlimited_writes_commute_shared :
    let record (path : String) (tag : Tag) : Record := ⟨⟨path⟩, tag⟩
    let library : Library := .ofRecords
      [record "a" ((Tag.ofList [("artist", "Muse"), ("mood", "calm")]).setNull "year"),
        record "b" (.ofList [("artist", "Muse"), ("year", "2001")]), record "c" ∅]
    let target : Target := .eager (.ofList [("artist", .ofList [.text "Muse"])])
    let undated : Target := .strict (.ofList [("year", .absent)])
    let changes : Assignments := .ofList [("genre", some "Rock"), ("mood", none)]
    let others : Assignments := .ofList [("rating", some "5")]
    let update : Query := ⟨.update, .assignment changes, target, 0⟩
    let other : Query := ⟨.update, .assignment others, undated, 0⟩
    let deletion : Query := ⟨.delete, .everything, undated, 0⟩
    ({} : Settings).effectiveLimit 0 = 0 ∧ (∀ label ∈ changes.keys, label ∉ undated.labels) ∧
      (∀ label ∈ others.keys, label ∉ changes.keys ∧ label ∉ target.labels) ∧
      storeAfter {} library [update, other] = storeAfter {} library [other, update] ∧
      (storeAfter {} library [update, other]).get? ⟨"a"⟩ =
        some ((Tag.ofList [("artist", "Muse"), ("genre", "Rock"), ("rating", "5")]).setNull "year") ∧
      storeAfter {} library [update, deletion] = storeAfter {} library [deletion, update] ∧
      (storeAfter {} library [update, deletion]).records =
        [record "b" (.ofList [("artist", "Muse"), ("genre", "Rock"), ("year", "2001")])] := by
  intro record library target undated changes others update other deletion
  have unlimited : ({} : Settings).effectiveLimit 0 = 0 := rfl
  have apart : ∀ label ∈ changes.keys, label ∉ undated.labels := by decide
  have separate : ∀ label ∈ others.keys, label ∉ changes.keys ∧ label ∉ target.labels := by decide
  obtain ⟨updates, deletions⟩ :=
    unlimited_writes_commute {} library target undated changes 0 0 unlimited unlimited apart
  obtain ⟨updated, _⟩ := updates others separate
  obtain ⟨deleted, _⟩ := deletions .everything
  exact ⟨unlimited, apart, separate, updated, by decide, deleted, by decide⟩

end Engine

end TagQuery
