import TagQuery.Proofs.OrderedMap
import TagQuery.Store.Library

namespace TagQuery

theorem RecordId.nodup_of_ascending {ids : List RecordId} (ascending : ids.Pairwise (· < ·)) : ids.Nodup := by
  apply List.Pairwise.imp _ ascending
  intro earlier later below same
  rw [same] at below
  exact Std.lt_irrefl below

namespace Library

@[simp] theorem get?_mk (tags : OrderedMap RecordId Tag) (id : RecordId) : get? ⟨tags⟩ id = tags.get? id := rfl

theorem ids_records (library : Library) : library.records.map Record.id = library.tags.keys := by
  simp [records, OrderedMap.keys]

theorem tags_records (library : Library) : library.records.map Record.tag = library.tags.values := by
  simp [records, OrderedMap.values]

theorem ext_get? {first second : Library} (same : ∀ id, first.get? id = second.get? id) :
    first = second := by
  cases first
  cases second
  exact congrArg Library.mk (OrderedMap.ext_get? same)

theorem mem_records_iff (library : Library) (record : Record) :
    record ∈ library.records ↔ library.get? record.id = some record.tag := by
  rw [get?, OrderedMap.get?_eq_some_iff, records, List.mem_map]
  constructor
  · intro listed
    obtain ⟨entry, member, same⟩ := listed
    subst same
    exact member
  · intro member
    exact ⟨(record.id, record.tag), member, rfl⟩

theorem records_ascending (library : Library) : (library.records.map Record.id).Pairwise (· < ·) := by
  rw [records, List.map_map, List.pairwise_map]
  exact library.tags.ascending

section Loading

variable (records : List Record)

theorem tags_foldl_put (library : Library) :
    (records.foldl (fun library record => (library.put record).2) library).tags =
      records.foldl (fun tags record => tags.insert record.id record.tag) library.tags := by
  induction records generalizing library with
  | nil => rfl
  | cons record rest ih => exact ih (library.put record).2

theorem ofRecords_eq_foldl :
    ofRecords records = records.foldl (fun library record => (library.put record).2) empty := by
  have built : (ofRecords records).tags =
      (records.foldl (fun library record => (library.put record).2) empty).tags := by
    rw [tags_foldl_put, ofRecords, OrderedMap.ofList, List.foldl_map]
    rfl
  exact congrArg Library.mk built

theorem mem_ofRecords_iff (record : Record) :
    record ∈ (ofRecords records).records ↔
      ∃ front back, records = front ++ record :: back ∧ record.id ∉ back.map Record.id := by
  rw [mem_records_iff]
  change (OrderedMap.ofList _).get? _ = _ ↔ _
  rw [OrderedMap.get?_ofList_eq_some_iff_last]
  constructor
  · rintro ⟨front, back, parted, fresh⟩
    obtain ⟨before, behind, rfl, rfl, rest⟩ := List.map_eq_append_iff.mp parted
    obtain ⟨last, after, rfl, same, rfl⟩ := List.map_eq_cons_iff.mp rest
    have equal : last = record := by
      cases last
      cases record
      simpa using same
    subst equal
    refine ⟨before, after, rfl, ?_⟩
    rwa [List.map_map] at fresh
  · rintro ⟨front, back, rfl, fresh⟩
    refine ⟨_, back.map fun record => (record.id, record.tag), List.map_append, ?_⟩
    rwa [List.map_map]

@[simp] theorem mem_ids_ofRecords_iff (id : RecordId) :
    id ∈ (ofRecords records).records.map Record.id ↔ id ∈ records.map Record.id := by
  simp [ids_records, ofRecords]

@[simp] theorem ofRecords_records (library : Library) : ofRecords library.records = library := by
  simp [ofRecords, Library.records, Function.comp_def]

variable {records}

theorem ofRecords_perm {others : List Record} (same : records.Perm others) (distinct : (records.map Record.id).Nodup) :
    ofRecords records = ofRecords others := by
  rw [ofRecords, ofRecords, OrderedMap.ofList_perm (same.map _)]
  rwa [List.map_map]

end Loading

theorem records_removed {library after : Library} {ids : List RecordId}
    (removed : ∀ id, after.get? id = if id ∈ ids then none else library.get? id) :
    after.records = library.records.filter (·.id ∉ ids) := by
  let kept : OrderedMap RecordId Tag :=
    ⟨library.tags.entries.filter (·.1 ∉ ids), library.tags.ascending.filter _⟩
  have same : after.tags = kept := by
    apply OrderedMap.ext_mem
    intro entry
    have now := removed entry.1
    change after.tags.get? entry.1 = if entry.1 ∈ ids then none else library.tags.get? entry.1 at now
    rw [List.mem_filter, decide_eq_true_eq, ← OrderedMap.get?_eq_some_iff, ← OrderedMap.get?_eq_some_iff, now]
    split
    · rename_i gone
      simp [gone]
    · rename_i left
      simp [left]
  rw [records, same, records, List.filter_map]
  rfl

section Filtering

variable (library : Library) (keeps : Record → Bool)

theorem mem_filter_ids_iff (id : RecordId) :
    id ∈ (library.records.filter keeps).map Record.id ↔
      ∃ tag, library.get? id = some tag ∧ keeps ⟨id, tag⟩ := by
  rw [List.mem_map]
  constructor
  · intro listed
    obtain ⟨record, member, same⟩ := listed
    obtain ⟨held, kept⟩ := List.mem_filter.mp member
    subst same
    exact ⟨record.tag, (library.mem_records_iff record).mp held, kept⟩
  · intro found
    obtain ⟨tag, held, kept⟩ := found
    have listed := (library.mem_records_iff ⟨id, tag⟩).mpr held
    exact ⟨⟨id, tag⟩, List.mem_filter.mpr ⟨listed, kept⟩, rfl⟩

theorem filter_ids_ascending : ((library.records.filter keeps).map Record.id).Pairwise (· < ·) := by
  have ascending := library.records_ascending
  rw [List.pairwise_map] at ascending ⊢
  exact ascending.filter keeps

end Filtering

theorem labels_ascending (library : Library) : library.labels.Pairwise (· < ·) :=
  OrderedSet.toList_ascending _

@[simp] theorem mem_labels_iff (library : Library) (label : String) :
    label ∈ library.labels ↔ ∃ record ∈ library.records, label ∈ record.tag.labels := by
  simp [labels, ← tags_records]

theorem distinctValues_ascending (library : Library) (label : String) :
    (library.distinctValues label).Pairwise (· < ·) :=
  OrderedSet.toList_ascending _

@[simp] theorem mem_distinctValues_iff (library : Library) (label value : String) :
    value ∈ library.distinctValues label ↔
      ∃ record ∈ library.records, record.tag.get? label = some value := by
  simp [distinctValues, ← tags_records]

def propertyNames : List String := ["labels", "count", "paths", "artists", "albums", "genres"]

theorem property?_eq_none_iff (library : Library) (name : String) :
    library.property? name = none ↔ name ∉ propertyNames := by
  unfold property?
  split <;> simp_all [propertyNames]

/-- A write that does not find a missing record, and makes of the tag of any other what `alter` says.
    Where it makes nothing of the tag, the record is gone. -/
structure Alters (write : Library → RecordId → Except Error Unit × Library)
    (alter : Tag → Option Tag) : Prop where
  missing {library : Library} {id : RecordId} (absent : library.get? id = none) :
    write library id = (.error (.recordNotFound id.path), library)
  held {library : Library} {id : RecordId} {tag : Tag} (found : library.get? id = some tag) :
    ∃ after, write library id = (.ok (), after) ∧
      ∀ other, after.get? other = if other = id then alter tag else library.get? other

theorem contains_eq_isSome (library : Library) (id : RecordId) :
    library.tags.contains id = (library.get? id).isSome :=
  library.tags.contains_eq_isSome_get? id

theorem remove_alters : Alters remove fun _ => none where
  missing {library id} absent := by
    simp [remove, contains_eq_isSome, absent]
  held {library id tag} found := by
    refine ⟨⟨library.tags.erase id⟩, ?_, fun other => by simp [get?]⟩
    simp [remove, contains_eq_isSome, found]

theorem update_alters (changes : Assignments) :
    Alters (fun library id => library.update id changes) fun tag => some (tag.apply changes) where
  missing {library id} absent := by
    simp [update, contains_eq_isSome, absent]
  held {library id tag} found := by
    refine ⟨⟨library.tags.modify id (·.apply changes)⟩, ?_, fun other => ?_⟩
    · simp [update, contains_eq_isSome, found]
    · by_cases same : other = id
      · have held : library.tags.get? id = some tag := found
        simp [same, held]
      · simp [same, get?]

end Library

end TagQuery
