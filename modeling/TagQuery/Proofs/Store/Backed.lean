import TagQuery.Proofs.Store.Library
import TagQuery.Store.FaultyLibrary

namespace TagQuery

section Change

variable {σ : Type} (library : σ → Library) (isBroken : σ → RecordId → Bool)

/-- A change of a store that is a write to the library behind it, except that it fails for broken ids
    and then leaves the store as it is. -/
structure WritesThrough (write : Library → RecordId → Except Error Unit × Library)
    (change : σ → RecordId → Except Error Unit × σ) : Prop where
  broken {store : σ} {id : RecordId} (refused : isBroken store id) :
    ∃ cause, change store id = (.error cause, store)
  working {store : σ} {id : RecordId} (sound : isBroken store id = false) :
    ∃ after, change store id = ((write (library store) id).1, after) ∧
      library after = (write (library store) id).2 ∧ isBroken after = isBroken store

def isWritable (store : σ) (id : RecordId) : Bool :=
  ((library store).get? id).isSome && !isBroken store id

end Change

/-- A store whose writes go through to a library, one record at a time. What it lists is left open. -/
class BackedStore (σ : Type) extends Store σ where
  library : σ → Library
  isBroken : σ → RecordId → Bool
  library_read (store : σ) : library (readRecords store).2 = library store
  isBroken_read (store : σ) : isBroken (readRecords store).2 = isBroken store
  remove_through : WritesThrough library isBroken Library.remove remove
  update_through (changes : Assignments) :
    WritesThrough library isBroken (fun library id => library.update id changes)
      fun store id => update store id changes
  removeAll_eq : removeAll = bestEffort remove
  updateAll_eq (store : σ) (ids : List RecordId) (changes : Assignments) :
    updateAll store ids changes = bestEffort (fun store id => update store id changes) store ids

section Batch

variable {σ : Type} {change : σ → RecordId → Except Error Unit × σ} {store after : σ} {id : RecordId}
  {rest : List RecordId}

theorem bestEffort_cons_ok (changed : change store id = (.ok (), after)) :
    bestEffort change store (id :: rest) =
      (id :: (bestEffort change after rest).1, (bestEffort change after rest).2) := by
  simp only [bestEffort, changed]

theorem bestEffort_cons_error {cause : Error} (failed : change store id = (.error cause, after)) :
    bestEffort change store (id :: rest) = bestEffort change after rest := by
  simp only [bestEffort, failed]

end Batch

namespace WritesThrough

variable {σ : Type} {library : σ → Library} {isBroken : σ → RecordId → Bool}
  {write : Library → RecordId → Except Error Unit × Library}
  {change : σ → RecordId → Except Error Unit × σ} {alter : Tag → Option Tag}

theorem step_writable (through : WritesThrough library isBroken write change)
    (alters : Library.Alters write alter) {store : σ} {id : RecordId}
    (writable : isWritable library isBroken store id) :
    ∃ after, change store id = (.ok (), after) ∧ isBroken after = isBroken store ∧
      ∀ other, (library after).get? other =
        if other = id then ((library store).get? id).bind alter else (library store).get? other := by
  rw [isWritable, Bool.and_eq_true, Bool.not_eq_true'] at writable
  obtain ⟨tag, found⟩ := Option.isSome_iff_exists.mp writable.1
  obtain ⟨after, changed, kept, same⟩ := through.working writable.2
  obtain ⟨altered, written, looked⟩ := alters.held found
  rw [written] at changed kept
  refine ⟨after, changed, same, ?_⟩
  rw [kept, found]
  exact looked

theorem step_unwritable (through : WritesThrough library isBroken write change)
    (alters : Library.Alters write alter) {store : σ} {id : RecordId}
    (unwritable : isWritable library isBroken store id = false) :
    ∃ cause after, change store id = (.error cause, after) ∧ isBroken after = isBroken store ∧
      library after = library store := by
  cases refused : isBroken store id with
  | true =>
    obtain ⟨cause, failed⟩ := through.broken refused
    exact ⟨cause, store, failed, rfl, rfl⟩
  | false =>
    have absent : (library store).get? id = none := by simpa [isWritable, refused] using unwritable
    obtain ⟨after, changed, kept, same⟩ := through.working refused
    rw [alters.missing absent] at changed kept
    exact ⟨_, after, changed, same, kept⟩

/-- Of distinct ids just those are written, each of them once, of which a write succeeds at the start. -/
theorem bestEffort (through : WritesThrough library isBroken write change)
    (alters : Library.Alters write alter) {ids : List RecordId} (distinct : ids.Nodup) (store : σ) :
    (bestEffort change store ids).1 = ids.filter (isWritable library isBroken store) ∧
      ∀ id, (library (TagQuery.bestEffort change store ids).2).get? id =
        if id ∈ ids.filter (isWritable library isBroken store) then ((library store).get? id).bind alter
        else (library store).get? id := by
  induction ids generalizing store with
  | nil => exact ⟨rfl, fun id => rfl⟩
  | cons first rest ih =>
    obtain ⟨fresh, distinct⟩ := List.nodup_cons.mp distinct
    cases writable : isWritable library isBroken store first with
    | true =>
      obtain ⟨after, changed, same, looked⟩ := through.step_writable alters writable
      obtain ⟨done, final⟩ := ih distinct after
      -- The write to the first id leaves all the others as writable as they were.
      have others : rest.filter (isWritable library isBroken after) =
          rest.filter (isWritable library isBroken store) := by
        apply List.filter_congr
        intro id member
        have different : id ≠ first := fun equal => fresh (equal ▸ member)
        rw [isWritable, isWritable, looked id, if_neg different, same]
      rw [others] at done final
      rw [bestEffort_cons_ok changed, List.filter_cons_of_pos writable, done]
      refine ⟨rfl, fun id => ?_⟩
      rw [final id, looked id]
      by_cases equal : id = first
      · subst equal
        have unlisted : id ∉ rest.filter (isWritable library isBroken store) :=
          fun member => fresh (List.mem_filter.mp member).1
        simp [unlisted]
      · simp [equal]
    | false =>
      obtain ⟨cause, after, failed, same, kept⟩ := through.step_unwritable alters writable
      have unchanged : isWritable library isBroken after = isWritable library isBroken store := by
        funext id
        rw [isWritable, isWritable, same, kept]
      have unlisted : ¬ isWritable library isBroken store first = true := by simp [writable]
      rw [bestEffort_cons_error failed, List.filter_cons_of_neg unlisted, ← unchanged, ← kept]
      exact ih distinct after

end WritesThrough

namespace Library

theorem write_through (write : Library → RecordId → Except Error Unit × Library) :
    WritesThrough (fun library => library) (fun _ _ => false) write write where
  broken refused := by cases refused
  working _ := ⟨_, rfl, rfl, rfl⟩

instance : BackedStore Library where
  library store := store
  isBroken _ _ := false
  library_read _ := rfl
  isBroken_read _ := rfl
  remove_through := write_through remove
  update_through changes := write_through fun library id => library.update id changes
  removeAll_eq := rfl
  updateAll_eq _ _ _ := rfl

end Library

namespace FaultyLibrary

theorem write_through (write : Library → RecordId → Except Error Unit × Library) :
    WritesThrough library (fun store id => store.broken.contains id) write
      fun store id => store.write id (write · id) where
  broken {store id} refused := by
    refine ⟨.storage "device busy", ?_⟩
    rw [FaultyLibrary.write, if_pos refused]
  working {store id} sound := by
    refine ⟨{ store with library := (write store.library id).2 }, ?_, rfl, rfl⟩
    rw [FaultyLibrary.write, sound]
    rfl

instance : BackedStore FaultyLibrary where
  library := library
  isBroken store id := store.broken.contains id
  library_read _ := rfl
  isBroken_read _ := rfl
  remove_through := write_through Library.remove
  update_through changes := write_through fun library id => library.update id changes
  removeAll_eq := rfl
  updateAll_eq _ _ _ := rfl

end FaultyLibrary

end TagQuery
