import TagQuery.Engine.Run
import TagQuery.Proofs.Engine.Matching
import TagQuery.Proofs.Repeats
import TagQuery.Store.FaultyLibrary

namespace TagQuery

/-- The places, counted from `start`, where the accepted records stand. -/
def placesFrom (start : Nat) (accepts : Record → Bool) (records : List Record) : List Nat :=
  ((records.zipIdx start).filter fun place => accepts place.1).map Prod.snd

theorem placesFrom_cons (start : Nat) (accepts : Record → Bool) (record : Record) (rest : List Record) :
    placesFrom start accepts (record :: rest) =
      if accepts record then start :: placesFrom (start + 1) accepts rest
      else placesFrom (start + 1) accepts rest := by
  unfold placesFrom
  rw [List.zipIdx_cons, List.filter_cons]
  split <;> rfl

@[simp] theorem length_placesFrom (start : Nat) (accepts : Record → Bool) (records : List Record) :
    (placesFrom start accepts records).length = (records.filter accepts).length := by
  induction records generalizing start with
  | nil => rfl
  | cons record rest ih =>
    rw [placesFrom_cons, List.filter_cons]
    split <;> simp [ih]

namespace Selection

/-- What a scan comes to that has found these matches in order and looked at so many records. -/
def ofMatches (settings : Settings) (labels : List String) (found : List Record) (scanned : Nat) :
    Selection where
  entries :=
    if settings.deduplicate then (found.map (Record.entry settings labels)).eraseDups
    else found.map (Record.entry settings labels)
  ids := (found.map Record.id).eraseDups
  scanned := scanned
  matched := found.length

variable {settings : Settings} {target : Target} {labels : List String} {found : List Record}
  {scanned : Nat}

@[simp] theorem add_ofMatches (record : Record) :
    (ofMatches settings labels found scanned).add settings labels record =
      ofMatches settings labels (found ++ [record]) (scanned + 1) := by
  have entries := eraseDups_concat (found.map (Record.entry settings labels)) (record.entry settings labels)
  have ids := eraseDups_concat (found.map Record.id) record.id
  simp only [add, ofMatches, List.map_append, List.map_cons, List.map_nil, List.length_append,
    List.length_cons, List.length_nil, List.mem_eraseDups, entries, ids]
  by_cases distinct : settings.deduplicate = true
  · simp only [distinct, ↓reduceIte, true_and, List.mem_eraseDups]
    rfl
  · simp only [distinct, ↓reduceIte, false_and, Bool.false_eq_true]
    rfl

@[simp] theorem skip_ofMatches :
    (ofMatches settings labels found scanned).skip = ofMatches settings labels found (scanned + 1) := rfl

theorem scan_unlimited (records : List Record) :
    scan settings target labels 0 (ofMatches settings labels found scanned) records =
      ofMatches settings labels (found ++ records.filter (target.accepts settings))
        (scanned + records.length) := by
  induction records generalizing found scanned with
  | nil => simp [scan]
  | cons record rest ih =>
    have length : scanned + 1 + rest.length = scanned + (record :: rest).length := by
      rw [List.length_cons]
      omega
    rw [scan]
    by_cases accepted : target.accepts settings record
    · simp [accepted, ih, length]
    · simp [accepted, ih, length]

theorem scan_limited (remaining : Nat) (records : List Record) :
    scan settings target labels (found.length + (remaining + 1)) (ofMatches settings labels found scanned)
        records =
      ofMatches settings labels (found ++ (records.filter (target.accepts settings)).take (remaining + 1))
        ((placesFrom (scanned + 1) (target.accepts settings) records)[remaining]?.getD
          (scanned + records.length)) := by
  -- The limit is what has been found and what may still be, so that a match moves one from these to those.
  induction records generalizing found scanned remaining with
  | nil => simp [scan, placesFrom]
  | cons record rest ih =>
    have length : scanned + 1 + rest.length = scanned + (record :: rest).length := by
      rw [List.length_cons]
      omega
    rw [scan, placesFrom_cons]
    by_cases accepted : target.accepts settings record
    · have matched : (ofMatches settings labels (found ++ [record]) (scanned + 1)).matched =
          found.length + 1 := by simp [ofMatches]
      simp only [accepted, ↓reduceIte, add_ofMatches, matched, List.filter_cons_of_pos]
      cases remaining with
      | zero => simp
      | succ remaining =>
        have unreached : ¬ (0 < found.length + (remaining + 1 + 1) ∧
            found.length + (remaining + 1 + 1) ≤ found.length + 1) := by omega
        have bound : found.length + (remaining + 1 + 1) = (found ++ [record]).length + (remaining + 1) := by
          simp only [List.length_append, List.length_cons, List.length_nil]
          omega
        rw [if_neg unreached, bound, ih, length, List.getElem?_cons_succ, List.take_succ_cons,
          List.append_assoc, List.singleton_append]
    · simp [accepted, ih, length]

def chosen (limit : Nat) (matching : List Record) : List Record :=
  if limit = 0 then matching else matching.take limit

theorem chosen_sublist (limit : Nat) (matching : List Record) : (chosen limit matching).Sublist matching := by
  unfold chosen
  split
  · exact .refl _
  · exact List.take_sublist _ _

/-- How many records a scan looks at: up to the match that reaches the limit, or else all of them. -/
def reach (limit : Nat) (accepts : Record → Bool) (records : List Record) : Nat :=
  if limit = 0 then records.length else (placesFrom 1 accepts records)[limit - 1]?.getD records.length

theorem reach_of_few {limit : Nat} {accepts : Record → Bool} {records : List Record}
    (few : limit = 0 ∨ (records.filter accepts).length < limit) :
    reach limit accepts records = records.length := by
  unfold reach
  split
  · rfl
  · rename_i limited
    have none : (placesFrom 1 accepts records)[limit - 1]? = none := by
      rw [List.getElem?_eq_none_iff, length_placesFrom]
      omega
    rw [none, Option.getD_none]

theorem reach_of_enough {limit : Nat} {accepts : Record → Bool} {records : List Record}
    (enough : 0 < limit ∧ limit ≤ (records.filter accepts).length) :
    (placesFrom 1 accepts records)[limit - 1]? = some (reach limit accepts records) := by
  have inside : limit - 1 < (placesFrom 1 accepts records).length := by
    rw [length_placesFrom]
    omega
  have limited : limit ≠ 0 := by omega
  simp [reach, limited, List.getElem?_eq_getElem inside]

theorem scan_eq (limit : Nat) (records : List Record) :
    scan settings target labels limit {} records =
      ofMatches settings labels (chosen limit (records.filter (target.accepts settings)))
        (reach limit (target.accepts settings) records) := by
  have start : ({} : Selection) = ofMatches settings labels [] 0 := by
    simp [ofMatches]
  rw [start]
  cases limit with
  | zero =>
    rw [scan_unlimited, Nat.zero_add]
    rfl
  | succ remaining =>
    have bounded := @scan_limited settings target labels [] 0 remaining records
    rwa [List.length_nil, Nat.zero_add, Nat.zero_add, Nat.zero_add] at bounded

def ofListing (settings : Settings) (target : Target) (labels : List String) (limit : UInt64) (records : List Record) :
    Selection :=
  ofMatches settings labels
    (chosen (settings.effectiveLimit limit).toNat (records.filter (target.accepts settings)))
    (reach (settings.effectiveLimit limit).toNat (target.accepts settings) records)

end Selection

namespace Engine

variable {σ : Type} [Store σ]

section Listing

variable {settings : Settings} {target : Target} {limit : UInt64} {store left : σ} {records : List Record}

theorem select_of_listing {command : Command} {subject : Subject} {labels : List String}
    (listed : Store.readRecords store = (.ok records, left)) :
    select settings ⟨command, subject, target, limit⟩ labels store =
      (.ok (.ofListing settings target labels limit records), left) := by
  simp only [select, listed, Except.map, Selection.ofRecords, Selection.scan_eq]
  rfl

variable {subject : Subject} (listed : Store.readRecords store = (.ok records, left))

include listed

theorem run_select_of_listing : run settings ⟨.select, subject, target, limit⟩ store =
    (.ok (answerOf subject.projectedLabels []
      (.ofListing settings target subject.projectedLabels limit records)), left) := by
  simp only [run, runSelect, select_of_listing listed, Except.map]

theorem run_delete_of_listing : run settings ⟨.delete, subject, target, limit⟩ store =
    (let selection := Selection.ofListing settings target subject.projectedLabels limit records
     let (changed, after) := Store.removeAll left selection.ids
     (.ok (answerOf subject.projectedLabels changed selection), after)) := by
  simp only [run, runDelete, select_of_listing listed]

theorem run_update_of_listing {changes : Assignments} (changing : changes.isEmpty = false) :
    run settings ⟨.update, .assignment changes, target, limit⟩ store =
      (let selection := Selection.ofListing settings target [] limit records
       let (changed, after) := Store.updateAll left selection.ids changes
       (.ok { changed, counts := selection.counts changed.length }, after)) := by
  simp only [run, runUpdate, select_of_listing listed, changing, Bool.false_eq_true, if_false]

end Listing

theorem select_library (settings : Settings) (query : Query) (labels : List String) (library : Library) :
    select settings query labels library =
      (.ok (.ofRecords settings query labels library.records), library) := rfl

theorem runShow_library {query : Query} {name : String} (named : query.subject = .property name)
    (library : Library) :
    runShow query library =
      match library.property? name with
      | some value => (.ok (.property name value), library)
      | none => (.error (.query (.unknownProperty name)), library) := by
  have read : Store.readProperty library name = (.ok (library.property? name), library) := rfl
  simp only [runShow, named, read]
  cases library.property? name <;> rfl

def entriesOf (settings : Settings) (labels : List String) (found : List Record) : List Answer.Entry :=
  if settings.deduplicate then (found.map (Record.entry settings labels)).eraseDups
  else found.map (Record.entry settings labels)

theorem entriesOf_sublist (settings : Settings) (labels : List String) (found : List Record) :
    (entriesOf settings labels found).Sublist (found.map (Record.entry settings labels)) := by
  rw [entriesOf]
  split
  · exact eraseDups_sublist _
  · exact .refl _

/-- What a query finds in a listing: the matches up to its limit, where repeats count, and of them what the
    labels asked for keep, and the ids. -/
theorem run_of_listing (settings : Settings) (target : Target) (subject : Subject) (limit : UInt64)
    (changes : Assignments) {store left : σ} {records : List Record}
    (listed : Store.readRecords store = (.ok records, left)) :
    let accepts (record : Record) : Bool := target.Matches settings record
    let bound := (if limit = 0 then settings.defaultLimit else limit).toNat
    let matching := records.filter accepts
    let found := if bound = 0 then matching else matching.take bound
    let labels := match subject with
      | .projection labels => labels
      | .assignment _ | .property _ => []
    let ids := (found.map Record.id).eraseDups
    ∃ entries scanned,
      List.Forall₂ (Answer.Entry.Keeps settings labels) entries found ∧
      (bound = 0 ∨ matching.length < bound → scanned = records.length) ∧
      (0 < bound ∧ bound ≤ matching.length →
        (placesFrom 1 accepts records)[bound - 1]? = some scanned) ∧
      let items := (if settings.deduplicate then entries.eraseDups else entries).map Answer.Item.entry
      run settings ⟨.select, subject, target, limit⟩ store =
        (.ok ⟨items, labels, [], ⟨scanned, found.length, 0⟩⟩, left) ∧
      run settings ⟨.delete, subject, target, limit⟩ store =
        (let (changed, after) := Store.removeAll left ids
         (.ok ⟨items, labels, changed, ⟨scanned, found.length, changed.length⟩⟩, after)) ∧
      (changes.isEmpty = false →
        run settings ⟨.update, .assignment changes, target, limit⟩ store =
          (let (changed, after) := Store.updateAll left ids changes
           (.ok ⟨[], [], changed, ⟨scanned, found.length, changed.length⟩⟩, after))) := by
  intro accepts bound matching found labels ids
  have meaning : accepts = target.accepts settings := funext fun record => Target.decide_matches
  have asked : labels = subject.projectedLabels := by cases subject <;> rfl
  clear_value accepts labels
  subst meaning asked
  refine ⟨found.map (Record.entry settings subject.projectedLabels), Selection.reach bound _ records,
    Answer.Entry.forall₂_keeps_iff.mpr rfl, Selection.reach_of_few, Selection.reach_of_enough, ?_, ?_, ?_⟩
  · exact run_select_of_listing listed
  · exact run_delete_of_listing listed
  · exact run_update_of_listing listed

/-- Every record is listed twice here, the third match is the fifth of the six, and no entry is dropped. Of the
    labels asked for one is asked for twice, one stands for the id, and one is missing. -/
theorem run_of_listing_repeated :
    let record (path genre : String) : Record := ⟨⟨path⟩, .ofList [("genre", genre)]⟩
    let entry (path genre : String) : Answer.Item :=
      .entry ⟨⟨path⟩, (Tag.ofList [("genre", genre), ("path", path)]).setNull "title"⟩
    let settings : Settings := { defaultLimit := 3, deduplicate := false }
    let labels := ["genre", "path", "title", "genre"]
    let target : Target := .strict (.ofList [("genre", .text "Rock")])
    let store : FaultyLibrary :=
      { library := .ofRecords [record "a" "Rock"]
        ghosts := [record "b" "Pop", record "c" "Rock"]
        repetitions := 2 }
    Store.readRecords store = (.ok [record "a" "Rock", record "a" "Rock", record "b" "Pop",
        record "b" "Pop", record "c" "Rock", record "c" "Rock"], store) ∧
      run settings ⟨.select, .projection labels, target, 0⟩ store =
        (.ok ⟨[entry "a" "Rock", entry "a" "Rock", entry "c" "Rock"], labels, [], ⟨5, 3, 0⟩⟩, store) := by
  intro record entry settings labels target store
  have listed : Store.readRecords store = (.ok [record "a" "Rock", record "a" "Rock", record "b" "Pop",
      record "b" "Pop", record "c" "Rock", record "c" "Rock"], store) := rfl
  obtain ⟨entries, scanned, kept, _, enough, selected, _⟩ :=
    run_of_listing settings target (.projection labels) 0 ∅ listed
  have fifth : scanned = 5 := (Option.some.inj (enough (by decide))).symm
  refine ⟨listed, ?_⟩
  rw [selected, fifth, Answer.Entry.forall₂_keeps_iff.mp kept]
  rfl

end Engine

end TagQuery
