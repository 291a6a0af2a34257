import TagQuery.Proofs.Answer
import TagQuery.Proofs.Engine.Filter
import TagQuery.Proofs.OrderedMap.Union

namespace TagQuery

namespace Target

open TargetPairs (give)

/-- The laws of a matching: what it makes of targets that are put together, or to which a pair is added, in terms
    of what it makes of their parts. -/
structure Laws (accepts : Target → Prop) : Prop where
  eagerUnion : ∀ first second : OrderedMap String (OrderedSet Requirement), first.isEmpty = false →
    second.isEmpty = false →
      (accepts (eager (first.unionWith OrderedSet.union second)) ↔ accepts (eager first) ∨ accepts (eager second))
  strictUnion : ∀ first second : OrderedMap String Requirement, first.Agrees second →
    (accepts (strict (first.unionWith (fun held _ => held) second)) ↔ accepts (strict first) ∧ accepts (strict second))
  single : ∀ label requirement, accepts (only label requirement .strict) ↔ accepts (only label requirement .eager)
  eagerEmpty : accepts (eager ∅)
  strictEmpty : accepts (strict ∅)
  eagerAdd : ∀ (labels : OrderedMap String (OrderedSet Requirement)) (added : String × Requirement),
    labels.isEmpty = false → accepts (eager labels) → accepts (eager (give labels added))
  /-- The label is a new one, or has the value already. -/
  strictAdd : ∀ (labels : OrderedMap String Requirement) (label : String) (requirement : Requirement),
    (∀ held, labels.get? label = some held → held = requirement) →
      accepts (strict (labels.insert label requirement)) → accepts (strict labels)
  strictEager : ∀ labels : OrderedMap String Requirement, labels.isEmpty = false → accepts (strict labels) →
    accepts (eager (labels.mapValues fun requirement => .ofList [requirement]))

section Contents

variable {content : String × Requirement}

theorem mem_contents_eager_iff {labels : OrderedMap String (OrderedSet Requirement)} :
    content ∈ (eager labels).contents ↔ ∃ values, labels.get? content.1 = some values ∧ content.2 ∈ values.toList := by
  simp only [contents, List.mem_flatMap, List.mem_map, OrderedMap.get?_eq_some_iff]
  constructor
  · rintro ⟨entry, listed, requirement, given, rfl⟩
    exact ⟨entry.2, listed, given⟩
  · rintro ⟨values, listed, given⟩
    exact ⟨(content.1, values), listed, content.2, given, rfl⟩

theorem mem_contents_strict_iff {labels : OrderedMap String Requirement} :
    content ∈ (strict labels).contents ↔ labels.get? content.1 = some content.2 :=
  (labels.get?_eq_some_iff content.1 content.2).symm

theorem mem_contents_eager_union {first second : OrderedMap String (OrderedSet Requirement)} :
    content ∈ (eager (first.unionWith OrderedSet.union second)).contents ↔
      content ∈ (eager first).contents ∨ content ∈ (eager second).contents := by
  simp only [mem_contents_eager_iff, OrderedMap.get?_unionWith]
  cases first.get? content.1 <;> cases second.get? content.1 <;> simp [OrderedSet.mem_union_iff]

theorem mem_contents_strict_union {first second : OrderedMap String Requirement} (agree : first.Agrees second) :
    content ∈ (strict (first.unionWith (fun held _ => held) second)).contents ↔
      content ∈ (strict first).contents ∨ content ∈ (strict second).contents := by
  simp only [mem_contents_strict_iff, OrderedMap.get?_unionWith]
  cases here : first.get? content.1 with
  | none => cases second.get? content.1 <;> simp
  | some held =>
    cases there : second.get? content.1 with
    | none => simp
    | some other => simp [agree content.1 held other here there]

theorem mem_contents_give {labels : OrderedMap String (OrderedSet Requirement)} {added : String × Requirement} :
    content ∈ (eager (give labels added)).contents ↔ content = added ∨ content ∈ (eager labels).contents := by
  rw [mem_contents_eager_iff, mem_contents_eager_iff, give, OrderedMap.get?_insert, Prod.ext_iff]
  split
  · rename_i same
    simp only [same, Option.some.injEq, exists_eq_left', OrderedSet.mem_insert_iff, true_and]
    apply or_congr_right
    cases labels.get? added.1 with
    | some values => simp
    | none => exact iff_of_false List.not_mem_nil (by simp)
  · rename_i different
    simp [different]

theorem mem_contents_insert {labels : OrderedMap String Requirement} {label : String} {requirement : Requirement}
    (agree : ∀ held, labels.get? label = some held → held = requirement)
    (listed : content ∈ (strict labels).contents) : content ∈ (strict (labels.insert label requirement)).contents := by
  rw [mem_contents_strict_iff] at listed ⊢
  rw [OrderedMap.get?_insert]
  split
  · rename_i same
    rw [same] at listed
    rw [agree content.2 listed]
  · exact listed

theorem mem_contents_mapValues {labels : OrderedMap String Requirement} :
    content ∈ (eager (labels.mapValues fun requirement => .ofList [requirement])).contents ↔
      content ∈ (strict labels).contents := by
  rw [mem_contents_eager_iff, mem_contents_strict_iff, OrderedMap.get?_mapValues]
  cases labels.get? content.1 with
  | none => simp
  | some held => simp [OrderedSet.mem_ofList_iff, eq_comm]

end Contents

section Accepts

variable {settings : Settings} {record : Record}

theorem accepts_eager_iff {labels : OrderedMap String (OrderedSet Requirement)} (some : labels.isEmpty = false) :
    (eager labels).accepts settings record ↔
      ∃ content ∈ (eager labels).contents, record.satisfies settings content.1 content.2 := by
  rw [accepts_iff_asks, Asks, some]
  simp

theorem accepts_strict_iff {labels : OrderedMap String Requirement} :
    (strict labels).accepts settings record ↔
      ∀ content ∈ (strict labels).contents, record.satisfies settings content.1 content.2 :=
  accepts_iff_asks

theorem accepts_eager_iff_only {labels : OrderedMap String (OrderedSet Requirement)} (some : labels.isEmpty = false) :
    (eager labels).accepts settings record ↔
      ∃ content ∈ (eager labels).contents, (only content.1 content.2 .strict).accepts settings record := by
  simp only [accepts_eager_iff some, accepts_only]

theorem laws_accepts (settings : Settings) (record : Record) :
    Laws fun target => target.accepts settings record where
  eagerUnion first second some other := by
    have joined := OrderedMap.isEmpty_unionWith OrderedSet.union some second
    simp only [accepts_eager_iff some, accepts_eager_iff other, accepts_eager_iff joined, mem_contents_eager_union,
      or_and_right, exists_or]
  strictUnion first second agree := by
    simp only [accepts_strict_iff, mem_contents_strict_union agree, or_imp, forall_and]
  single label requirement := by rw [accepts_only, accepts_only]
  eagerEmpty := rfl
  strictEmpty := rfl
  eagerAdd labels added some accepted := by
    have more : (give labels added).isEmpty = false :=
      List.isEmpty_eq_false_iff.mpr (OrderedMap.insert_entries_ne_nil labels _ _)
    obtain ⟨content, listed, satisfied⟩ := (accepts_eager_iff some).mp accepted
    exact (accepts_eager_iff more).mpr ⟨content, mem_contents_give.mpr (.inr listed), satisfied⟩
  strictAdd labels label requirement agree accepted := by
    rw [accepts_strict_iff] at accepted ⊢
    exact fun content listed => accepted content (mem_contents_insert agree listed)
  strictEager labels some accepted := by
    have kept : (labels.mapValues fun requirement => OrderedSet.ofList [requirement]).isEmpty = false := by
      rwa [OrderedMap.isEmpty, OrderedMap.mapValues, List.isEmpty_map]
    obtain ⟨label, requirement, held⟩ := OrderedMap.isEmpty_eq_false_iff.mp some
    have listed : (label, requirement) ∈ (strict labels).contents := mem_contents_strict_iff.mpr held
    exact (accepts_eager_iff kept).mpr
      ⟨_, mem_contents_mapValues.mpr listed, accepts_strict_iff.mp accepted _ listed⟩

end Accepts

end Target

namespace Engine

theorem mem_ids_entriesOf_iff {settings : Settings} {labels : List String} {found : List Record} {id : RecordId} :
    id ∈ (entriesOf settings labels found).map Answer.Entry.id ↔ ∃ record ∈ found, record.id = id := by
  have listed (entry : Answer.Entry) : entry ∈ entriesOf settings labels found ↔
      ∃ record ∈ found, record.entry settings labels = entry := by
    rw [entriesOf]
    split <;> simp
  simp only [List.mem_map, listed]
  constructor
  · rintro ⟨entry, ⟨record, member, rfl⟩, rfl⟩
    exact ⟨record, member, rfl⟩
  · rintro ⟨record, member, rfl⟩
    exact ⟨_, ⟨record, member, rfl⟩, rfl⟩

section Unbounded

variable {σ : Type} [Store σ] {store left : σ} {records : List Record} {settings : Settings} {limit : UInt64}

theorem run_select_unbounded (listed : Store.readRecords store = (.ok records, left)) (subject : Subject)
    (unbounded : settings.effectiveLimit limit = 0) (target : Target) :
    ∃ answer, run settings ⟨.select, subject, target, limit⟩ store = (.ok answer, left) ∧
      answer.entries = entriesOf settings subject.projectedLabels (records.filter (target.accepts settings)) := by
  refine ⟨_, run_select_of_listing listed, ?_⟩
  rw [Answer.entries, answerOf, Answer.filterMap_entry, Selection.ofListing, unbounded]
  rfl

end Unbounded

/-- Targets form an algebra of matching. An eager target is the alternative of its pairs, and a strict target
    their conjunction; an empty target asks nothing. A selection by an eager target finds, in the order of the
    listing, what the selections by its single pairs find. -/
theorem matching_laws (settings : Settings) :
    (∀ record, Target.Laws fun target => target.accepts settings record) ∧
    ∀ (σ : Type) [Store σ] (store left : σ) (records : List Record), Store.readRecords store = (.ok records, left) →
      ∀ (subject : Subject) (limit : UInt64), settings.effectiveLimit limit = 0 →
      ∀ labels : OrderedMap String (OrderedSet Requirement), labels.isEmpty = false →
        let pairs := (Target.eager labels).contents
        ∃ answer, run settings ⟨.select, subject, .eager labels, limit⟩ store = (.ok answer, left) ∧
          answer.entries = entriesOf settings subject.projectedLabels (records.filter fun record =>
            pairs.any fun pair => (Target.only pair.1 pair.2 .strict).accepts settings record) ∧
          ∀ id, id ∈ answer.entries.map Answer.Entry.id ↔ ∃ pair ∈ pairs, ∃ single,
            run settings ⟨.select, subject, .only pair.1 pair.2 .strict, limit⟩ store = (.ok single, left) ∧
              id ∈ single.entries.map Answer.Entry.id := by
  refine ⟨Target.laws_accepts settings, ?_⟩
  intro σ _ store left records listed subject limit unbounded labels some pairs
  have alternative (record : Record) : (Target.eager labels).accepts settings record =
      pairs.any fun pair => (Target.only pair.1 pair.2 .strict).accepts settings record := by
    rw [Bool.eq_iff_iff, Target.accepts_eager_iff_only some, List.any_eq_true]
  have selects := run_select_unbounded listed subject unbounded
  obtain ⟨answer, ran, entries⟩ := selects (.eager labels)
  refine ⟨answer, ran, entries.trans ?_, fun id => ?_⟩
  · rw [List.filter_congr fun record _ => alternative record]
  rw [entries, mem_ids_entriesOf_iff]
  constructor
  · rintro ⟨record, found, rfl⟩
    obtain ⟨member, accepted⟩ := List.mem_filter.mp found
    obtain ⟨pair, given, matched⟩ := (Target.accepts_eager_iff_only some).mp accepted
    obtain ⟨single, alone, few⟩ := selects (.only pair.1 pair.2 .strict)
    refine ⟨pair, given, single, alone, ?_⟩
    rw [few, mem_ids_entriesOf_iff]
    exact ⟨record, List.mem_filter.mpr ⟨member, matched⟩, rfl⟩
  · rintro ⟨pair, given, single, alone, held⟩
    obtain ⟨again, ranAgain, few⟩ := selects (.only pair.1 pair.2 .strict)
    cases alone.symm.trans ranAgain
    rw [few, mem_ids_entriesOf_iff] at held
    obtain ⟨record, found, rfl⟩ := held
    obtain ⟨member, matched⟩ := List.mem_filter.mp found
    have accepted := (Target.accepts_eager_iff_only some).mpr ⟨pair, given, matched⟩
    exact ⟨record, List.mem_filter.mpr ⟨member, accepted⟩, rfl⟩

/-- Two of three records, each for a pair of its own; the second of them by a label that both strict targets have. -/
theorem matching_laws_genres :
    let rock : OrderedMap String (OrderedSet Requirement) := .ofList [("genre", .ofList [.text "Rock"])]
    let muse : OrderedMap String (OrderedSet Requirement) := .ofList [("artist", .ofList [.text "Muse"])]
    let artist : OrderedMap String Requirement := .ofList [("artist", .text "Muse")]
    let both : OrderedMap String Requirement := .ofList [("artist", .text "Muse"), ("genre", .text "Pop")]
    let record : Record := ⟨⟨"b"⟩, .ofList [("artist", "Muse"), ("genre", "Pop")]⟩
    let library : Library :=
      .ofRecords [⟨⟨"a"⟩, .ofList [("genre", "Rock")]⟩, record, ⟨⟨"c"⟩, .ofList [("genre", "Jazz")]⟩]
    (Target.eager (rock.unionWith OrderedSet.union muse)).accepts {} record ∧
      (Target.strict (artist.unionWith (fun held _ => held) both)).accepts {} record ∧
      (Target.eager (TargetPairs.give muse ("genre", .text "Rock"))).accepts {} record ∧
      (Target.strict artist).accepts {} record ∧
      (Target.eager (both.mapValues fun requirement => .ofList [requirement])).accepts {} record ∧
      ∃ answer, run {} ⟨.select, .everything, .eager (rock.unionWith OrderedSet.union muse), 0⟩ library =
        (.ok answer, library) ∧ answer.entries.map Answer.Entry.id = [⟨"a"⟩, ⟨"b"⟩] := by
  intro rock muse artist both record library
  obtain ⟨laws, selects⟩ := matching_laws {}
  have accepted : (Target.strict both).accepts {} record := by decide
  have alone : (Target.eager muse).accepts {} record := by decide
  have agree : artist.Agrees both := by
    intro label held other here there
    cases List.mem_singleton.mp (OrderedMap.mem_of_get? here)
    cases there
    rfl
  have one := (laws record).strictAdd artist "genre" (.text "Pop") (fun held given => by cases given) accepted
  have listed : Store.readRecords library = (.ok library.records, library) := rfl
  obtain ⟨answer, ran, entries, -⟩ := selects Library library library library.records listed .everything 0 rfl
    (rock.unionWith OrderedSet.union muse) (by decide)
  refine ⟨((laws record).eagerUnion rock muse rfl rfl).mpr (.inr alone),
    ((laws record).strictUnion artist both agree).mpr ⟨one, accepted⟩, (laws record).eagerAdd muse _ rfl alone, one,
    (laws record).strictEager both rfl accepted, answer, ran, ?_⟩
  rw [entries]
  decide

end Engine

end TagQuery
