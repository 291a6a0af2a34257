import TagQuery.Proofs.Engine.Filter
import TagQuery.Proofs.Engine.Sequence

namespace TagQuery

theorem filter_not_mem_take {α β : Type} [DecidableEq β] {elements : List α} {key : α → β}
    (distinct : (elements.map key).Nodup) (count : Nat) :
    elements.filter (fun element => key element ∉ (elements.map key).take count) = elements.drop count := by
  have parts := List.take_append_drop count elements
  have apart : ∀ element ∈ elements.drop count, key element ∉ (elements.take count).map key := by
    rw [← parts, List.map_append, List.nodup_append] at distinct
    intro element later taken
    exact distinct.2.2 _ taken _ (List.mem_map_of_mem later) rfl
  rw [← List.map_take]
  calc elements.filter (fun element => key element ∉ (elements.take count).map key)
      = (elements.take count ++ elements.drop count).filter
          (fun element => key element ∉ (elements.take count).map key) := by rw [parts]
    _ = elements.drop count := by
      rw [List.filter_append, List.filter_eq_nil_iff.mpr, List.filter_eq_self.mpr, List.nil_append]
      · intro element later
        exact decide_eq_true (apart element later)
      · intro element taken
        simpa using List.mem_map_of_mem taken

theorem toNat_ne_zero {limit : UInt64} (limited : limit ≠ 0) : limit.toNat ≠ 0 := fun zero =>
  limited (UInt64.toNat_inj.mp zero)

namespace Library

def matchingItems (settings : Settings) (target : Target) (subject : Subject) (library : Library) :
    List Answer.Item :=
  (library.matching settings target).map fun record => .entry (record.entry settings subject.projectedLabels)

variable {settings : Settings} {target : Target} {library after : Library} {count : Nat}

theorem matching_drop (removed : ∀ id, after.get? id =
      if id ∈ (library.matchingIds settings target).take count then none else library.get? id) :
    after.matching settings target = (library.matching settings target).drop count := by
  rw [matching_removed settings target library removed]
  exact filter_not_mem_take (library.matchingIds_nodup settings target) count

theorem found_limited {limit : UInt64} (limited : limit ≠ 0) :
    library.found settings target limit = (library.matching settings target).take limit.toNat := by
  have stated : settings.effectiveLimit limit = limit := if_neg limited
  rw [found, stated, Selection.chosen, if_neg (toNat_ne_zero limited)]

end Library

namespace Engine

variable (settings : Settings) (target : Target) (subject : Subject) {limit : UInt64} (library : Library)

section Limited

variable (limited : limit ≠ 0)

include limited

theorem run_delete_batch :
    ∃ answer after, run settings ⟨.delete, subject, target, limit⟩ library = (.ok answer, after) ∧
      answer.changed = (library.matchingIds settings target).take limit.toNat ∧
      answer.items = (library.matchingItems settings target subject).take limit.toNat ∧
      ∀ id, after.get? id =
        if id ∈ (library.matchingIds settings target).take limit.toNat then none else library.get? id := by
  have found : library.found settings target limit = (library.matching settings target).take limit.toNat :=
    Library.found_limited limited
  have ids : library.foundIds settings target limit =
      (library.matchingIds settings target).take limit.toNat := by
    rw [Library.foundIds, found, List.map_take, Library.matchingIds]
  obtain ⟨after, ran, final⟩ := run_delete_found settings target limit library subject
  rw [ids, found] at ran
  rw [ids] at final
  exact ⟨_, after, ran, rfl, List.map_take, final⟩

theorem run_delete_batches (count : Nat) :
    let batches : List Query := List.replicate count ⟨.delete, subject, target, limit⟩
    ∃ answers : List Answer, outcomes settings library batches = answers.map .ok ∧
      answers.flatMap Answer.changed = (library.matchingIds settings target).take (count * limit.toNat) ∧
      answers.flatMap Answer.items =
        (library.matchingItems settings target subject).take (count * limit.toNat) ∧
      ∀ id, (storeAfter settings library batches).get? id =
        if id ∈ (library.matchingIds settings target).take (count * limit.toNat) then none
        else library.get? id := by
  intro batches
  induction count generalizing library with
  | zero => exact ⟨[], rfl, by simp, by simp, by simp [batches, storeAfter]⟩
  | succ count ih =>
    -- The first batch leaves the matches behind those that it takes, and the others go on with these.
    obtain ⟨answer, after, ran, changed, items, removed⟩ :=
      run_delete_batch settings target subject library limited
    obtain ⟨answers, succeeded, laterChanged, laterItems, final⟩ := ih after
    have matching := Library.matching_drop removed
    have ids : after.matchingIds settings target =
        (library.matchingIds settings target).drop limit.toNat := by
      rw [Library.matchingIds, matching, List.map_drop, Library.matchingIds]
    have laterMatches : after.matchingItems settings target subject =
        (library.matchingItems settings target subject).drop limit.toNat := by
      rw [Library.matchingItems, matching, List.map_drop, Library.matchingItems]
    have total : (count + 1) * limit.toNat = limit.toNat + count * limit.toNat := by
      rw [Nat.succ_mul, Nat.add_comm]
    have left : storeAfter settings library batches =
        storeAfter settings after (List.replicate count ⟨.delete, subject, target, limit⟩) := by
      simp only [batches, List.replicate_succ, storeAfter, List.foldl_cons, ran]
    rw [ids] at laterChanged final
    rw [laterMatches] at laterItems
    refine ⟨answer :: answers, ?_, ?_, ?_, ?_⟩
    · simp only [batches, List.replicate_succ, outcomes, ran, succeeded, List.map_cons]
    · rw [List.flatMap_cons, changed, laterChanged, total, List.take_add]
    · rw [List.flatMap_cons, items, laterItems, total, List.take_add]
    · intro id
      rw [left, final, removed, total, List.take_add]
      simp only [List.mem_append]
      by_cases early : id ∈ (library.matchingIds settings target).take limit.toNat <;> simp [early]

end Limited

theorem run_delete_nothing (limit : UInt64) (nothing : library.matching settings target = []) :
    ∃ answer, run settings ⟨.delete, subject, target, limit⟩ library = (.ok answer, library) ∧
      answer.changed = [] := by
  have none : library.foundIds settings target limit = [] := by
    have sublist := library.foundIds_sublist settings target limit
    rw [Library.matchingIds, nothing] at sublist
    exact List.sublist_nil.mp sublist
  obtain ⟨after, ran, final⟩ := run_delete_found settings target limit library subject
  rw [none] at ran final
  have same : after = library := Library.ext_get? fun id => (final id).trans (if_neg List.not_mem_nil)
  subst same
  exact ⟨_, ran, rfl⟩

/-- Deleting in batches is deleting at once: the batches report, one after the other, what the deletion
    without a limit reports in one go, and once a batch finds nothing they have left the same store. -/
theorem deletions_in_batches (unlimited : settings.defaultLimit = 0) (limited : limit ≠ 0) :
    let batch : Query := ⟨.delete, subject, target, limit⟩
    let left (count : Nat) : Library := storeAfter settings library (List.replicate count batch)
    ∃ answer after, run settings ⟨.delete, subject, target, 0⟩ library = (.ok answer, after) ∧
      answer.changed = library.matchingIds settings target ∧
      (∀ count, ∃ answers : List Answer,
        outcomes settings library (List.replicate count batch) = answers.map .ok ∧
        answers.flatMap Answer.changed = answer.changed.take (count * limit.toNat) ∧
        answers.flatMap Answer.items = answer.items.take (count * limit.toNat) ∧
        ∀ id, (left count).get? id =
          if id ∈ answer.changed.take (count * limit.toNat) then none else library.get? id) ∧
      ∀ count last, (run settings batch (left count)).1 = .ok last → last.changed = [] →
        left count = after ∧
        ∀ (other : Subject) (otherLimit : UInt64), ∃ again,
          run settings ⟨.delete, other, target, otherLimit⟩ after = (.ok again, after) ∧
            again.changed = [] := by
  intro batch left
  obtain ⟨after, ran, final⟩ := run_deletion_unlimited unlimited target library subject
  have batches := run_delete_batches settings target subject library limited
  refine ⟨_, after, ran, rfl, batches, ?_⟩
  intro count last ranLast unchanged
  obtain ⟨_, _, _, _, removed⟩ := batches count
  have nothing : (left count).matching settings target = [] := by
    obtain ⟨answer, _, ranNext, changed, _⟩ := run_delete_batch settings target subject (left count) limited
    have same : answer = last := by
      rw [ranNext] at ranLast
      exact Except.ok.inj ranLast
    rw [same, unchanged] at changed
    have none := (List.take_eq_nil_iff.mp changed.symm).resolve_left (toNat_ne_zero limited)
    exact List.map_eq_nil_iff.mp none
  have enough : (library.matchingIds settings target).length ≤ count * limit.toNat := by
    rw [Library.matching_drop removed, List.drop_eq_nil_iff] at nothing
    rwa [Library.matchingIds, List.length_map]
  have same : left count = after := by
    apply Library.ext_get?
    intro id
    rw [removed, List.take_of_length_le enough, final]
  refine ⟨same, fun other otherLimit => ?_⟩
  rw [same] at nothing
  exact run_delete_nothing settings target other after otherLimit nothing

/-- Records that do not match stand before, between and after those that are deleted, and the last batch
    does not fill up. -/
theorem deletions_in_batches_interleaved :
    let record (path : String) (tag : Tag) : Record := ⟨⟨path⟩, tag⟩
    let library : Library := .ofRecords
      [record "a" ∅, record "b" (.ofList [("genre", "Rock")]), record "c" (.ofList [("genre", "Pop")]),
        record "d" (.ofList [("genre", "Rock")]), record "e" (.ofList [("genre", "Rock")]), record "f" ∅]
    let target : Target := .strict (.ofList [("genre", .text "Rock")])
    let batch : Query := ⟨.delete, .projection ["genre"], target, 2⟩
    let left : Library := storeAfter {} library (List.replicate 2 batch)
    ({} : Settings).defaultLimit = 0 ∧ (2 : UInt64) ≠ 0 ∧
      ∃ answer after, run {} ⟨.delete, .projection ["genre"], target, 0⟩ library = (.ok answer, after) ∧
        answer.changed = [⟨"b"⟩, ⟨"d"⟩, ⟨"e"⟩] ∧
        (∃ answers : List Answer, outcomes {} library (List.replicate 1 batch) = answers.map .ok ∧
          answers.flatMap Answer.changed = [⟨"b"⟩, ⟨"d"⟩]) ∧
        left = after ∧
        left.records = [record "a" ∅, record "c" (.ofList [("genre", "Pop")]), record "f" ∅] := by
  intro record library target batch left
  have unlimited : ({} : Settings).defaultLimit = 0 := rfl
  have limited : (2 : UInt64) ≠ 0 := by decide
  obtain ⟨answer, after, ran, changed, batches, exhausted⟩ :=
    deletions_in_batches {} target (.projection ["genre"]) library unlimited limited
  have found : library.matchingIds {} target = [⟨"b"⟩, ⟨"d"⟩, ⟨"e"⟩] := by decide
  rw [found] at changed
  obtain ⟨answers, succeeded, reported, _, _⟩ := batches 1
  rw [changed] at reported
  obtain ⟨last, ranLast, unchanged⟩ : ∃ last, (run {} batch left).1 = .ok last ∧ last.changed = [] := by
    have nothing : left.matching {} target = [] := by decide
    obtain ⟨last, ranLast, unchanged⟩ := run_delete_nothing {} target (.projection ["genre"]) left 2 nothing
    exact ⟨last, congrArg Prod.fst ranLast, unchanged⟩
  obtain ⟨same, _⟩ := exhausted 2 last ranLast unchanged
  exact ⟨unlimited, limited, answer, after, ran, changed, ⟨answers, succeeded, reported⟩, same, by decide⟩

end Engine

end TagQuery
