import TagQuery.Proofs.Repeats
import TagQuery.Proofs.Store.Backed
import TagQuery.Proofs.Tag

namespace TagQuery

abbrev Listing := List Record

namespace Listing

def ids (listing : Listing) : List RecordId := listing.map Record.id

def tag? (listing : Listing) (id : RecordId) : Option Tag := (listing.find? (·.id = id)).map Record.tag

/-- A record stands between those with smaller and those with greater ids, in place of any with its own. -/
def put (listing : Listing) (record : Record) : Listing :=
  listing.filter (·.id < record.id) ++ record :: listing.filter (record.id < ·.id)

def without (listing : Listing) (ids : List RecordId) : Listing := listing.filter (·.id ∉ ids)

def updated (listing : Listing) (ids : List RecordId) (changes : Assignments) : Listing :=
  listing.map fun record => if record.id ∈ ids then ⟨record.id, record.tag.apply changes⟩ else record

section Ids

variable (listing : Listing)

@[simp] theorem mem_ids_without_iff {removed : List RecordId} {id : RecordId} :
    id ∈ ids (listing.without removed) ↔ id ∈ listing.ids ∧ id ∉ removed := by
  simp only [ids, without, List.mem_map, List.mem_filter, decide_eq_true_eq]
  constructor
  · rintro ⟨record, ⟨member, kept⟩, rfl⟩
    exact ⟨⟨record, member, rfl⟩, kept⟩
  · rintro ⟨⟨record, member, rfl⟩, kept⟩
    exact ⟨record, ⟨member, kept⟩, rfl⟩

@[simp] theorem ids_updated (changed : List RecordId) (changes : Assignments) :
    ids (listing.updated changed changes) = listing.ids := by
  rw [ids, updated, List.map_map]
  refine List.map_congr_left fun record _ => ?_
  simp only [Function.comp_apply]
  split <;> rfl

theorem ids_without_sublist (removed : List RecordId) : (ids (listing.without removed)).Sublist listing.ids :=
  List.filter_sublist.map Record.id

@[simp] theorem without_without (first second : List RecordId) :
    without (listing.without first) second = listing.without (first ++ second) := by
  rw [without, without, without, List.filter_filter]
  refine List.filter_congr fun record _ => ?_
  simp [Bool.and_comm]

@[simp] theorem updated_updated (first second : List RecordId) (changes : Assignments) :
    updated (listing.updated first changes) second changes = listing.updated (first ++ second) changes := by
  rw [updated, updated, updated, List.map_map]
  refine List.map_congr_left fun record _ => ?_
  by_cases early : record.id ∈ first <;> by_cases late : record.id ∈ second <;>
    simp [early, late]

variable {listing} {id : RecordId} (unlisted : id ∉ listing.ids)

include unlisted

theorem id_ne_of_mem {record : Record} (member : record ∈ listing) : record.id ≠ id := fun same =>
  unlisted (same ▸ List.mem_map_of_mem member)

theorem without_unlisted (removed : List RecordId) : listing.without (id :: removed) = listing.without removed := by
  refine List.filter_congr fun record member => ?_
  simp [id_ne_of_mem unlisted member]

theorem updated_unlisted (changed : List RecordId) (changes : Assignments) :
    listing.updated (id :: changed) changes = listing.updated changed changes := by
  refine List.map_congr_left fun record member => ?_
  simp [id_ne_of_mem unlisted member]

end Ids

theorem put_ascending {listing : Listing} (ascending : listing.ids.Pairwise (· < ·)) (record : Record) :
    (ids (listing.put record)).Pairwise (· < ·) := by
  rw [ids, List.pairwise_map] at ascending ⊢
  have smaller : ∀ other ∈ listing.filter (·.id < record.id), other.id < record.id := fun other member =>
    of_decide_eq_true (List.mem_filter.mp member).2
  have greater : ∀ other ∈ listing.filter (record.id < ·.id), record.id < other.id := fun other member =>
    of_decide_eq_true (List.mem_filter.mp member).2
  refine List.pairwise_append.mpr ⟨ascending.filter _, List.pairwise_cons.mpr ⟨greater, ascending.filter _⟩, ?_⟩
  intro before below after member
  rcases List.mem_cons.mp member with rfl | above
  · exact smaller before below
  · exact Std.lt_trans (smaller before below) (greater after above)

end Listing

namespace Library

variable (library : Library)

@[simp] theorem tag?_records (id : RecordId) : Listing.tag? library.records id = library.get? id := by
  rw [Listing.tag?, records, List.find?_map, Option.map_map]
  rfl

theorem contains_iff_listed (id : RecordId) : library.tags.contains id ↔ id ∈ Listing.ids library.records := by
  rw [OrderedMap.contains_iff_mem_keys, Listing.ids, records, List.map_map]
  rfl

theorem records_put (record : Record) : (library.put record).2.records = Listing.put library.records record := by
  have placed : (library.put record).2.records =
      (OrderedMap.insertEntry record.id record.tag library.tags.entries).map fun entry => ⟨entry.1, entry.2⟩ := rfl
  rw [placed, OrderedMap.insertEntry_eq record.id record.tag library.tags.ascending, List.map_append, List.map_cons,
    Listing.put, records, List.filter_map, List.filter_map]
  rfl

section Write

variable {library} {id : RecordId}

theorem remove_listed (listed : id ∈ Listing.ids library.records) :
    ∃ after, library.remove id = (.ok (), after) ∧ after.records = Listing.without library.records [id] := by
  refine ⟨⟨library.tags.erase id⟩, ?_, ?_⟩
  · rw [remove, if_pos ((library.contains_iff_listed id).mpr listed)]
  · rw [records, OrderedMap.erase, Listing.without, records, List.filter_map]
    refine congrArg (List.map _) (List.filter_congr fun entry _ => ?_)
    simp

theorem remove_unlisted (unlisted : id ∉ Listing.ids library.records) :
    library.remove id = (.error (.recordNotFound id.path), library) := by
  rw [remove, if_neg (mt (library.contains_iff_listed id).mp unlisted)]

theorem update_listed (listed : id ∈ Listing.ids library.records) (changes : Assignments) :
    ∃ after, library.update id changes = (.ok (), after) ∧
      after.records = Listing.updated library.records [id] changes := by
  refine ⟨⟨library.tags.modify id (·.apply changes)⟩, ?_, ?_⟩
  · rw [update, if_pos ((library.contains_iff_listed id).mpr listed)]
  · rw [records, OrderedMap.modify, Listing.updated, records, List.map_map, List.map_map]
    refine List.map_congr_left fun entry _ => ?_
    by_cases same : entry.1 = id <;> simp [same]

theorem update_unlisted (unlisted : id ∉ Listing.ids library.records) (changes : Assignments) :
    library.update id changes = (.error (.recordNotFound id.path), library) := by
  rw [update, if_neg (mt (library.contains_iff_listed id).mp unlisted)]

end Write

theorem removeAll_records (ids : List RecordId) :
    (bestEffort remove library ids).1 = (ids.filter (· ∈ Listing.ids library.records)).eraseDups ∧
      (bestEffort remove library ids).2.records = Listing.without library.records ids := by
  induction ids generalizing library with
  | nil => simp [bestEffort, Listing.without]
  | cons first rest ih =>
    by_cases listed : first ∈ Listing.ids library.records
    · obtain ⟨after, removed, left⟩ := remove_listed listed
      obtain ⟨done, final⟩ := ih after
      rw [bestEffort_cons_ok removed, done, final, left, Listing.without_without,
        List.filter_cons_of_pos (by simpa using listed), List.eraseDups_cons, List.filter_filter]
      refine ⟨congrArg (fun ids => first :: List.eraseDups ids) (List.filter_congr fun id _ => ?_), rfl⟩
      by_cases same : id = first <;> simp [same]
    · obtain ⟨done, final⟩ := ih library
      rw [bestEffort_cons_error (remove_unlisted listed)]
      simp [Listing.without_unlisted listed, done, final, listed]

theorem updateAll_records (changes : Assignments) (ids : List RecordId) :
    (bestEffort (fun library id => update library id changes) library ids).1 =
        ids.filter (· ∈ Listing.ids library.records) ∧
      (bestEffort (fun library id => update library id changes) library ids).2.records =
        Listing.updated library.records ids changes := by
  induction ids generalizing library with
  | nil => simp [bestEffort, Listing.updated]
  | cons first rest ih =>
    by_cases listed : first ∈ Listing.ids library.records
    · obtain ⟨after, changed, left⟩ := update_listed listed changes
      obtain ⟨done, final⟩ := ih after
      rw [bestEffort_cons_ok changed]
      simp [done, final, left, listed]
    · obtain ⟨done, final⟩ := ih library
      rw [bestEffort_cons_error (update_unlisted listed changes)]
      simp [Listing.updated_unlisted listed, done, final, listed]

end Library

end TagQuery
