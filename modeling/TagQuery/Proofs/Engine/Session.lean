import Mathlib.Data.List.Sort
import TagQuery.Proofs.Engine.Provenance
import TagQuery.Proofs.Store.Listing

namespace TagQuery

namespace Library

inductive Request where
  | insert (record : Record)
  | remove (id : RecordId)
  | update (id : RecordId) (changes : Assignments)
  | removeAll (ids : List RecordId)
  | updateAll (ids : List RecordId) (changes : Assignments)
  | run (settings : Settings) (query : Query)
  | execute (settings : Settings) (text : String)
  | executeAll (settings : Settings) (text : String)

inductive Reply where
  | replaced (tag : Option Tag)
  | written (outcome : Except Error Unit)
  | changed (ids : List RecordId)
  | answer (outcome : Except Error Answer)
  | answers (outcome : Except Error (List Answer))

def respond (library : Library) : Request → Reply × Library
  | .insert record =>
    let (tag, after) := library.put record
    (.replaced tag, after)
  | .remove id =>
    let (outcome, after) := library.remove id
    (.written outcome, after)
  | .update id changes =>
    let (outcome, after) := library.update id changes
    (.written outcome, after)
  | .removeAll ids =>
    let (done, after) := Store.removeAll library ids
    (.changed done, after)
  | .updateAll ids changes =>
    let (done, after) := Store.updateAll library ids changes
    (.changed done, after)
  | .run settings query =>
    let (outcome, after) := Engine.run settings query library
    (.answer outcome, after)
  | .execute settings text =>
    let (outcome, after) := Engine.execute settings text library
    (.answer outcome, after)
  | .executeAll settings text =>
    let (outcome, after) := Engine.executeAll settings text library
    (.answers outcome, after)

def session (library : Library) : List Request → List Reply × Library
  | [] => ([], library)
  | request :: rest =>
    let (reply, after) := library.respond request
    let (replies, final) := session after rest
    (reply :: replies, final)

/-- What requests make of a listing, and the replies to them. Of queries it is told only that they bring in no id and
    move none. -/
inductive Serves (before : Listing) : Request → Reply → Listing → Prop
  | insert (record : Record) :
      Serves before (.insert record) (.replaced (before.tag? record.id)) (before.put record)
  | remove {id : RecordId} (listed : id ∈ before.ids) :
      Serves before (.remove id) (.written (.ok ())) (before.without [id])
  | removeMissing {id : RecordId} (unlisted : id ∉ before.ids) :
      Serves before (.remove id) (.written (.error (.recordNotFound id.path))) before
  | update {id : RecordId} (changes : Assignments) (listed : id ∈ before.ids) :
      Serves before (.update id changes) (.written (.ok ())) (before.updated [id] changes)
  | updateMissing {id : RecordId} (changes : Assignments) (unlisted : id ∉ before.ids) :
      Serves before (.update id changes) (.written (.error (.recordNotFound id.path))) before
  | removeAll (ids : List RecordId) :
      Serves before (.removeAll ids) (.changed (ids.filter (· ∈ before.ids)).eraseDups) (before.without ids)
  | updateAll (ids : List RecordId) (changes : Assignments) :
      Serves before (.updateAll ids changes) (.changed (ids.filter (· ∈ before.ids))) (before.updated ids changes)
  | run {after : Listing} (settings : Settings) (query : Query) (outcome : Except Error Answer)
      (among : after.ids.Sublist before.ids) : Serves before (.run settings query) (.answer outcome) after
  | execute {after : Listing} (settings : Settings) (text : String) (outcome : Except Error Answer)
      (among : after.ids.Sublist before.ids) : Serves before (.execute settings text) (.answer outcome) after
  | executeAll {after : Listing} (settings : Settings) (text : String) (outcome : Except Error (List Answer))
      (among : after.ids.Sublist before.ids) : Serves before (.executeAll settings text) (.answers outcome) after

inductive ServesAll : Listing → List Request → List Reply → Listing → Prop
  | nil (listing : Listing) : ServesAll listing [] [] listing
  | cons {before middle after : Listing} {request : Request} {requests : List Request} {reply : Reply}
      {replies : List Reply} (first : Serves before request reply middle)
      (others : ServesAll middle requests replies after) :
      ServesAll before (request :: requests) (reply :: replies) after

theorem Serves.ascending {before after : Listing} {request : Request} {reply : Reply}
    (served : Serves before request reply after) (ascending : before.ids.Pairwise (· < ·)) :
    after.ids.Pairwise (· < ·) := by
  cases served with
  | insert record => exact Listing.put_ascending ascending record
  | remove | removeAll => exact ascending.sublist (before.ids_without_sublist _)
  | removeMissing | updateMissing => exact ascending
  | update | updateAll =>
    rw [Listing.ids_updated]
    exact ascending
  | run _ _ _ among | execute _ _ _ among | executeAll _ _ _ among => exact ascending.sublist among

theorem ServesAll.ascending {before after : Listing} {requests : List Request} {replies : List Reply}
    (served : ServesAll before requests replies after) (ascending : before.ids.Pairwise (· < ·)) :
    after.ids.Pairwise (· < ·) := by
  induction served with
  | nil => exact ascending
  | cons first _ ih => exact ih (first.ascending ascending)

theorem mem_ids_iff (library : Library) (id : RecordId) :
    id ∈ Listing.ids library.records ↔ (library.get? id).isSome := by
  rw [← contains_iff_listed, contains_eq_isSome]

end Library

theorem Query.Effect.ids_sublist {query : Query} {before after : Library} (effect : query.Effect before after) :
    (Listing.ids after.records).Sublist (Listing.ids before.records) := by
  cases effect with
  | none => exact .refl _
  | removal ids _ removed =>
    rw [Library.records_removed removed]
    exact Listing.ids_without_sublist before.records ids
  | change ids _ _ changed =>
    have same : Listing.ids after.records = Listing.ids before.records := by
      apply after.records_ascending.eq_of_mem_iff before.records_ascending
      intro id
      change id ∈ Listing.ids after.records ↔ id ∈ Listing.ids before.records
      rw [Library.mem_ids_iff, Library.mem_ids_iff, changed]
      split
      · rw [Option.isSome_map]
      · rfl
    rw [same]

namespace Engine

variable (settings : Settings) (library : Library)

theorem storeAfter_ids_sublist (queries : List Query) :
    (Listing.ids (storeAfter settings library queries).records).Sublist (Listing.ids library.records) := by
  induction queries generalizing library with
  | nil => exact .refl _
  | cons query rest ih => exact (ih _).trans (run_effect settings query library).ids_sublist

theorem executeAll_ids_sublist (text : String) :
    (Listing.ids (executeAll settings text library).2.records).Sublist (Listing.ids library.records) := by
  cases read : Query.parseAll text with
  | error cause =>
    rw [executeAll_unreadable read]
  | ok queries =>
    obtain ⟨started, -, left⟩ := runAll_prefix settings library queries
    rw [executeAll_readable read, left]
    exact storeAfter_ids_sublist settings library started

theorem execute_ids_sublist (text : String) :
    (Listing.ids (execute settings text library).2.records).Sublist (Listing.ids library.records) := by
  rw [execute_eq_executeAll]
  exact executeAll_ids_sublist settings library text

end Engine

namespace Library

variable (library : Library)

theorem respond_serves (request : Request) :
    Serves library.records request (library.respond request).1 (library.respond request).2.records := by
  cases request with
  | insert record =>
    have served : Serves library.records (.insert record) _ _ := .insert record
    rw [tag?_records, ← records_put] at served
    exact served
  | remove id =>
    by_cases listed : id ∈ Listing.ids library.records
    · obtain ⟨after, removed, left⟩ := remove_listed listed
      rw [respond, removed, left]
      exact .remove listed
    · rw [respond, remove_unlisted listed]
      exact .removeMissing listed
  | update id changes =>
    by_cases listed : id ∈ Listing.ids library.records
    · obtain ⟨after, updated, left⟩ := update_listed listed changes
      rw [respond, updated, left]
      exact .update changes listed
    · rw [respond, update_unlisted listed]
      exact .updateMissing changes listed
  | removeAll ids =>
    obtain ⟨done, left⟩ := library.removeAll_records ids
    have served : Serves library.records (.removeAll ids) _ _ := .removeAll ids
    rw [← done, ← left] at served
    exact served
  | updateAll ids changes =>
    obtain ⟨done, left⟩ := library.updateAll_records changes ids
    have served : Serves library.records (.updateAll ids changes) _ _ := .updateAll ids changes
    rw [← done, ← left] at served
    exact served
  | run settings query => exact .run settings query _ (Engine.run_effect settings query library).ids_sublist
  | execute settings text => exact .execute settings text _ (Engine.execute_ids_sublist settings library text)
  | executeAll settings text => exact .executeAll settings text _ (Engine.executeAll_ids_sublist settings library text)

theorem session_serves (requests : List Request) :
    ServesAll library.records requests (library.session requests).1 (library.session requests).2.records := by
  induction requests generalizing library with
  | nil => exact .nil _
  | cons request rest ih => exact .cons (library.respond_serves request) (ih _)

/-- What a library answers is what its listing says, and its listing is all there is to it: loaded again, in whatever
    order, it is the same library. -/
structure Coherent : Prop where
  ascending : (library.records.map (·.id.path)).Pairwise (· < ·)
  size : library.size = library.records.length
  get (id : RecordId) (tag : Tag) : library.get? id = some tag ↔ ⟨id, tag⟩ ∈ library.records
  put (record : Record) (tag : Tag) : (library.put record).1 = some tag ↔ ⟨record.id, tag⟩ ∈ library.records
  missing : ∀ id ∉ Listing.ids library.records,
    library.remove id = (.error (.recordNotFound id.path), library) ∧
      ∀ changes, library.update id changes = (.error (.recordNotFound id.path), library)
  listed : ∀ id ∈ Listing.ids library.records,
    (library.remove id).1 = .ok () ∧ ∀ changes, (library.update id changes).1 = .ok ()
  reloaded : ∀ records, library.records.Perm records → ofRecords records = library

theorem coherent_of_ascending (ascending : (Listing.ids library.records).Pairwise (· < ·)) : library.Coherent where
  ascending := by
    rw [Listing.ids, List.pairwise_map] at ascending
    exact List.pairwise_map.mpr ascending
  size := (List.length_map _).symm
  get id tag := (library.mem_records_iff ⟨id, tag⟩).symm
  put record tag := (library.mem_records_iff ⟨record.id, tag⟩).symm
  missing id unlisted := ⟨remove_unlisted unlisted, update_unlisted unlisted⟩
  listed id member := by
    refine ⟨?_, fun changes => ?_⟩
    · obtain ⟨after, removed, -⟩ := remove_listed member
      rw [removed]
    · obtain ⟨after, updated, -⟩ := update_listed member changes
      rw [updated]
  reloaded records same := by
    rw [← ofRecords_perm same (RecordId.nodup_of_ascending ascending), ofRecords_records]

/-- A library is loaded as if its records were put in one by one: of several with one id the last stays, and where
    there are no such records their order makes no difference to any session. Through every session the library keeps
    to the order of its ids and to what it lists. -/
theorem sessions_keep_listing (records : List Record) :
    let loaded := ofRecords records
    loaded = records.foldl (fun library record => (library.put record).2) empty ∧
      (loaded.records.map (·.id.path)).Pairwise (· < ·) ∧
      (∀ id, id ∈ loaded.records.map Record.id ↔ id ∈ records.map Record.id) ∧
      (∀ record, record ∈ loaded.records ↔
        ∃ front back, records = front ++ record :: back ∧ record.id ∉ back.map Record.id) ∧
      (∀ others, records.Perm others → (records.map Record.id).Nodup →
        ∀ requests, (ofRecords others).session requests = loaded.session requests) ∧
      ∀ requests, ServesAll loaded.records requests (loaded.session requests).1 (loaded.session requests).2.records ∧
        (loaded.session requests).2.Coherent := by
  intro loaded
  have ascending := loaded.records_ascending
  refine ⟨ofRecords_eq_foldl records, (loaded.coherent_of_ascending ascending).ascending, mem_ids_ofRecords_iff records,
    mem_ofRecords_iff records, ?_, ?_⟩
  · intro others same distinct requests
    rw [← ofRecords_perm same distinct]
  · intro requests
    have served := loaded.session_serves requests
    exact ⟨served, coherent_of_ascending _ (served.ascending ascending)⟩

/-- Two records trade places before they are loaded. Later one of them is put in anew, one is to be removed twice, and a
    record is to be updated that there is not. -/
theorem sessions_keep_listing_reordered :
    let record (path genre : String) : Record := ⟨⟨path⟩, .ofList [("genre", genre)]⟩
    let records := [record "c" "Rock", record "a" "Pop", record "b" "Rock"]
    let others := [record "a" "Pop", record "c" "Rock", record "b" "Rock"]
    let requests : List Request :=
      [.insert (record "a" "Jazz"), .removeAll [⟨"b"⟩, ⟨"z"⟩, ⟨"b"⟩], .update ⟨"z"⟩ (.ofList [("genre", none)])]
    let replies : List Reply :=
      [.replaced (some (.ofList [("genre", "Pop")])), .changed [⟨"b"⟩], .written (.error (.recordNotFound "z"))]
    let left := ofRecords [record "a" "Jazz", record "c" "Rock"]
    records.Perm others ∧ (records.map Record.id).Nodup ∧
      (∀ settings text, (ofRecords others).session [.executeAll settings text, .execute settings text] =
        (ofRecords records).session [.executeAll settings text, .execute settings text]) ∧
      (ofRecords others).session requests = (replies, left) ∧ left.Coherent := by
  intro record records others requests replies left
  have same : records.Perm others := .swap (record "a" "Pop") (record "c" "Rock") _
  have distinct : (records.map Record.id).Nodup := by decide
  let reinserted := ofRecords [record "a" "Jazz", record "b" "Rock", record "c" "Rock"]
  have replaced : (ofRecords records).put (record "a" "Jazz") =
      (some (.ofList [("genre", "Pop")]), reinserted) := by decide
  have removed : Store.removeAll reinserted [⟨"b"⟩, ⟨"z"⟩, ⟨"b"⟩] = ([⟨"b"⟩], left) := by decide
  have missing : left.update ⟨"z"⟩ (.ofList [("genre", none)]) = (.error (.recordNotFound "z"), left) :=
    update_unlisted (by decide) _
  have served : (ofRecords records).session requests = (replies, left) := by
    simp only [requests, replies, session, respond, replaced, removed, missing]
  obtain ⟨-, -, -, -, reordered, reachable⟩ := sessions_keep_listing records
  have alike := reordered others same distinct
  have coherent := (reachable requests).2
  rw [served] at coherent
  exact ⟨same, distinct, fun settings text => alike _, (alike requests).trans served, coherent⟩

end Library

end TagQuery
