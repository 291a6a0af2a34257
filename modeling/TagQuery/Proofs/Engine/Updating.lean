import Mathlib.Data.List.Sort
import TagQuery.Proofs.Answer
import TagQuery.Proofs.Engine.Filter
import TagQuery.Proofs.Engine.Sequence

namespace TagQuery

theorem Library.sublist_matchingIds {settings : Settings} {target : Target} {library : Library}
    {ids : List RecordId} (ascending : ids.Pairwise (· < ·)) (subset : ids ⊆ library.matchingIds settings target) :
    ids.Sublist (library.matchingIds settings target) := by
  have subperm := List.subperm_of_subset (RecordId.nodup_of_ascending ascending) subset
  exact List.sublist_of_subperm_of_pairwise subperm ascending (library.matchingIds_ascending settings target)

section Again

variable {settings : Settings} {target : Target} {changes : Assignments}

theorem Record.updated_again (record : Record) :
    updated settings target changes ⟨record.id, record.updated settings target changes⟩ =
      record.updated settings target changes := by
  by_cases taken : target.accepts settings record
  · have changed : record.updated settings target changes = record.tag.apply changes := if_pos taken
    rw [changed, updated]
    split
    · exact record.tag.apply_apply changes
    · rfl
  · have kept : record.updated settings target changes = record.tag := if_neg taken
    rw [kept]
    exact kept

variable {library after : Library}
  (updated : ∀ id, after.get? id =
    (library.get? id).map fun tag => Record.updated settings target changes ⟨id, tag⟩)

include updated

theorem Library.matchingIds_updated_subset :
    after.matchingIds settings target ⊆ library.matchingIds settings target := by
  intro id listed
  obtain ⟨altered, held, accepted⟩ := (after.mem_matchingIds_iff settings target id).mp listed
  rw [updated] at held
  obtain ⟨tag, found, same⟩ := Option.map_eq_some_iff.mp held
  apply (library.mem_matchingIds_iff settings target id).mpr
  refine ⟨tag, found, ?_⟩
  apply Decidable.byContradiction
  intro refused
  have kept : Record.updated settings target changes ⟨id, tag⟩ = tag := if_neg refused
  rw [← same, kept] at accepted
  exact refused accepted

theorem Library.matchingIds_updated_sublist :
    (after.matchingIds settings target).Sublist (library.matchingIds settings target) :=
  sublist_matchingIds (after.matchingIds_ascending settings target) (matchingIds_updated_subset updated)

end Again

namespace Engine

theorem run_update_twice {settings : Settings} {limit : UInt64} (unlimited : settings.effectiveLimit limit = 0)
    (target : Target) (changes : Assignments) (library : Library) :
    let update : Query := ⟨.update, .assignment changes, target, limit⟩
    ∃ answer repeated after, run settings update library = (.ok answer, after) ∧
      run settings update after = (.ok repeated, after) ∧ repeated.changed.Sublist answer.changed := by
  intro update
  obtain ⟨after, ran, changed⟩ := run_update_found settings target limit library changes
  obtain ⟨final, ranAgain, changedAgain⟩ := run_update_found settings target limit after changes
  rw [Library.foundIds_unlimited target _ unlimited] at ran changed ranAgain changedAgain
  have updated := library.get?_updated settings target changed
  have updatedAgain := after.get?_updated settings target changedAgain
  have same : final = after := by
    apply Library.ext_get?
    intro id
    rw [updatedAgain, updated, Option.map_map]
    apply congrArg (Option.map · (library.get? id))
    funext tag
    exact Record.updated_again ⟨id, tag⟩
  subst same
  refine ⟨_, _, final, ran, ranAgain, ?_⟩
  cases changes.isEmpty with
  | true => exact List.nil_sublist []
  | false => exact Library.matchingIds_updated_sublist updated

/-- An update without a limit has nothing left to do when it runs again, although it may have moved
    records out of its own target. -/
theorem unlimited_update_idempotent (settings : Settings) (library : Library) (target : Target)
    (subject : Subject) (limit : UInt64) (unlimited : settings.effectiveLimit limit = 0) :
    let update : Query := ⟨.update, subject, target, limit⟩
    storeAfter settings library [update, update] = storeAfter settings library [update] ∧
      ∀ changes, subject = .assignment changes →
        ∃ answer repeated, outcomes settings library [update, update] = [.ok answer, .ok repeated] ∧
          repeated.changed.Sublist answer.changed := by
  intro update
  cases subject with
  | assignment changes =>
    obtain ⟨answer, repeated, after, ran, ranAgain, fewer⟩ :=
      run_update_twice unlimited target changes library
    constructor
    · rw [storeAfter_pair ran ranAgain, storeAfter, List.foldl_cons, List.foldl_nil, ran]
    · intro _ _
      exact ⟨answer, repeated, outcomes_pair ran ranAgain, fewer⟩
  | projection | property =>
    refine ⟨rfl, ?_⟩
    intro _ assigned
    cases assigned

theorem unlimited_update_idempotent_moving :
    let record (path : String) (tag : Tag) : Record := ⟨⟨path⟩, tag⟩
    let library : Library := .ofRecords
      [record "a" (.ofList [("artist", "Muse"), ("genre", "Rock")]),
        record "b" (.ofList [("genre", "Rock"), ("mood", "calm")]), record "c" (.ofList [("genre", "Pop")])]
    let target : Target :=
      .eager (.ofList [("artist", .ofList [.text "Muse"]), ("genre", .ofList [.text "Rock"])])
    let changes : Assignments := .ofList [("genre", some "Pop"), ("mood", none)]
    let update : Query := ⟨.update, .assignment changes, target, 0⟩
    ({} : Settings).effectiveLimit 0 = 0 ∧
      storeAfter {} library [update, update] = storeAfter {} library [update] ∧
      (storeAfter {} library [update]).records =
        [record "a" (.ofList [("artist", "Muse"), ("genre", "Pop")]), record "b" (.ofList [("genre", "Pop")]),
          record "c" (.ofList [("genre", "Pop")])] ∧
      ∃ answer repeated, outcomes {} library [update, update] = [.ok answer, .ok repeated] ∧
        repeated.changed.Sublist answer.changed ∧ answer.changed = [⟨"a"⟩, ⟨"b"⟩] ∧ repeated.changed = [⟨"a"⟩] := by
  intro record library target changes update
  have unlimited : ({} : Settings).effectiveLimit 0 = 0 := rfl
  obtain ⟨same, reported⟩ := unlimited_update_idempotent {} library target (.assignment changes) 0 unlimited
  obtain ⟨answer, repeated, ran, fewer⟩ := reported changes rfl
  have changed : (outcomes {} library [update, update]).map (·.toOption.map Answer.changed) =
      [some [⟨"a"⟩, ⟨"b"⟩], some [⟨"a"⟩]] := by decide
  rw [ran] at changed
  simp only [List.map_cons, List.map_nil, Except.toOption, Option.map_some, List.cons.injEq,
    Option.some.injEq, and_true] at changed
  exact ⟨unlimited, same, by decide, answer, repeated, ran, fewer, changed⟩

end Engine

end TagQuery
