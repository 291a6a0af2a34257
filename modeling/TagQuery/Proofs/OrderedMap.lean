import Mathlib.Data.List.Nodup
import TagQuery.OrderedMap.Lemmas

namespace TagQuery

universe u v

namespace OrderedMap

section Insertion

variable {κ : Type u} {α : Type v} [LT κ] [DecidableLT κ] [LE κ] [Std.IsLinearOrder κ]
  [Std.LawfulOrderLT κ]

theorem mem_foldl_insert {pairs : List (κ × α)} {map : OrderedMap κ α} {entry : κ × α}
    (member : entry ∈ (pairs.foldl (fun map pair => map.insert pair.1 pair.2) map).entries) :
    entry ∈ pairs ∨ entry ∈ map.entries := by
  induction pairs generalizing map with
  | nil => exact .inr member
  | cons pair rest ih =>
    rcases ih member with later | held
    · exact .inl (List.mem_cons_of_mem _ later)
    · rcases key_of_mem_insertEntry held with rfl | old
      · exact .inl List.mem_cons_self
      · exact .inr old

theorem mem_of_mem_ofList {pairs : List (κ × α)} {entry : κ × α}
    (member : entry ∈ (ofList pairs).entries) : entry ∈ pairs :=
  (mem_foldl_insert member).resolve_right List.not_mem_nil

theorem insert_entries_ne_nil (map : OrderedMap κ α) (key : κ) (value : α) :
    (map.insert key value).entries ≠ [] := by
  cases held : map.entries with
  | nil => simp [insert, insertEntry, held]
  | cons head rest =>
    simp only [insert, insertEntry, held]
    split
    · simp
    · split <;> simp

theorem foldl_insert_entries_ne_nil {pairs : List (κ × α)} {map : OrderedMap κ α}
    (some : map.entries ≠ []) :
    (pairs.foldl (fun map pair => map.insert pair.1 pair.2) map).entries ≠ [] := by
  induction pairs generalizing map with
  | nil => exact some
  | cons pair rest ih => exact ih (insert_entries_ne_nil map pair.1 pair.2)

theorem ofList_entries_ne_nil {pairs : List (κ × α)} (some : pairs ≠ []) :
    (ofList pairs).entries ≠ [] := by
  obtain ⟨pair, rest, rfl⟩ := List.exists_cons_of_ne_nil some
  rw [ofList, List.foldl_cons]
  exact foldl_insert_entries_ne_nil (insert_entries_ne_nil empty pair.1 pair.2)

theorem insertEntry_eq (key : κ) (value : α) {entries : List (κ × α)}
    (ascending : entries.Pairwise fun earlier later => earlier.1 < later.1) :
    insertEntry key value entries =
      entries.filter (·.1 < key) ++ (key, value) :: entries.filter (key < ·.1) := by
  induction entries with
  | nil => rfl
  | cons head rest ih =>
    obtain ⟨other, held⟩ := head
    obtain ⟨below, tail⟩ := List.pairwise_cons.mp ascending
    by_cases above : other < key
    · have notLess : ¬ key < other := Std.not_lt.mpr (Std.le_of_lt above)
      rw [insertEntry, if_neg notLess, if_pos above, ih tail]
      simp [above, notLess]
    · have greater (entry : κ × α) (member : entry ∈ rest) : key < entry.1 :=
        Std.lt_of_le_of_lt (Std.not_lt.mp above) (below entry member)
      have none : rest.filter (·.1 < key) = [] := by
        refine List.filter_eq_nil_iff.mpr fun entry member => ?_
        simpa using Std.not_lt.mpr (Std.le_of_lt (greater entry member))
      have all : rest.filter (key < ·.1) = rest :=
        List.filter_eq_self.mpr fun entry member => decide_eq_true (greater entry member)
      rw [insertEntry, if_neg above]
      split
      · rename_i less
        simp [above, less, none, all]
      · rename_i notLess
        simp [above, notLess, none, all]

end Insertion

def mapValues {κ : Type u} {α β : Type v} [LT κ] (map : OrderedMap κ α) (change : α → β) : OrderedMap κ β where
  entries := map.entries.map fun entry => (entry.1, change entry.2)
  ascending := by
    rw [List.pairwise_map]
    exact map.ascending

@[simp] theorem get?_mapValues {κ : Type u} {α β : Type v} [LT κ] [DecidableEq κ]
    (map : OrderedMap κ α) (change : α → β) (key : κ) : (map.mapValues change).get? key = (map.get? key).map change := by
  simp only [get?, mapValues, List.find?_map, Option.map_map]
  rfl

theorem keys_ascending {κ : Type u} {α : Type v} [LT κ] (map : OrderedMap κ α) : map.keys.Pairwise (· < ·) := by
  rw [keys, List.pairwise_map]
  exact map.ascending

section Listing

variable {κ : Type u} {α : Type v} [LT κ] [LE κ] [Std.LawfulOrderLT κ]

theorem nodup_keys (map : OrderedMap κ α) : (map.entries.map Prod.fst).Nodup := by
  rw [List.Nodup, List.pairwise_map]
  refine map.ascending.imp fun less equal => ?_
  rw [equal] at less
  exact Std.lt_irrefl less

variable [DecidableEq κ]

theorem get?_of_mem {map : OrderedMap κ α} {entry : κ × α} (member : entry ∈ map.entries) :
    map.get? entry.1 = some entry.2 :=
  (map.get?_eq_some_iff entry.1 entry.2).mpr member

variable [DecidableLT κ] [Std.IsLinearOrder κ]

@[simp] theorem insert_insert (map : OrderedMap κ α) (key : κ) (value other : α) :
    (map.insert key value).insert key other = map.insert key other := by
  refine ext_get? fun wanted => ?_
  by_cases same : wanted = key <;> simp [same]

@[simp] theorem ofList_entries (map : OrderedMap κ α) : ofList map.entries = map := by
  refine ext_get? fun key => ?_
  rw [get?_ofList]
  cases found : map.entries.reverse.find? (·.1 = key) with
  | none =>
    have absent : key ∉ map.keys := by
      rw [List.find?_eq_none] at found
      rintro held
      obtain ⟨entry, member, same⟩ := List.mem_map.mp held
      exact found entry (List.mem_reverse.mpr member) (by simpa using same)
    rw [(map.get?_eq_none_iff key).mpr absent]
    rfl
  | some entry =>
    have same : entry.1 = key := by simpa using List.find?_some found
    have member : entry ∈ map.entries := List.mem_reverse.mp (List.mem_of_find?_eq_some found)
    rw [← same, get?_of_mem member]
    rfl

theorem get?_ofList_eq_some_iff_last {pairs : List (κ × α)} {key : κ} {value : α} :
    (ofList pairs).get? key = some value ↔
      ∃ front back, pairs = front ++ (key, value) :: back ∧ key ∉ back.map Prod.fst := by
  rw [get?_ofList, Option.map_eq_some_iff]
  constructor
  · intro found
    obtain ⟨pair, hit, rfl⟩ := found
    obtain ⟨same, later, earlier, whole, missed⟩ := List.find?_eq_some_iff_append.mp hit
    have same : pair.1 = key := by simpa using same
    subst same
    refine ⟨earlier.reverse, later.reverse, ?_, ?_⟩
    · rw [← List.reverse_reverse pairs, whole]
      simp
    · intro again
      obtain ⟨other, member, equal⟩ := List.mem_map.mp again
      have different := missed other (List.mem_reverse.mp member)
      simp [equal] at different
  · intro last
    obtain ⟨front, back, rfl, fresh⟩ := last
    refine ⟨(key, value), ?_, rfl⟩
    rw [List.find?_eq_some_iff_append]
    refine ⟨decide_eq_true rfl, back.reverse, front.reverse, by simp, ?_⟩
    intro other member
    have different : other.1 ≠ key := fun same =>
      fresh (same ▸ List.mem_map_of_mem (List.mem_reverse.mp member))
    simp [different]

@[simp] theorem mem_keys_ofList_iff {pairs : List (κ × α)} {key : κ} :
    key ∈ (ofList pairs).keys ↔ key ∈ pairs.map Prod.fst := by
  rw [← not_iff_not, ← get?_eq_none_iff, get?_ofList, Option.map_eq_none_iff, List.find?_eq_none]
  simp only [List.mem_reverse, List.mem_map, decide_eq_true_eq, not_exists, not_and]

theorem get?_ofList_eq_some_iff {pairs : List (κ × α)} {key : κ} {value : α}
    (distinct : (pairs.map Prod.fst).Nodup) : (ofList pairs).get? key = some value ↔ (key, value) ∈ pairs := by
  rw [get?_ofList, Option.map_eq_some_iff]
  constructor
  · intro found
    obtain ⟨pair, hit, rfl⟩ := found
    have same : pair.1 = key := by simpa using List.find?_some hit
    rw [← same]
    exact List.mem_reverse.mp (List.mem_of_find?_eq_some hit)
  · intro given
    cases hit : pairs.reverse.find? (·.1 = key) with
    | none =>
      have missed := List.find?_eq_none.mp hit (key, value) (List.mem_reverse.mpr given)
      exact absurd (decide_eq_true rfl) missed
    | some pair =>
      have same : pair.1 = key := by simpa using List.find?_some hit
      have listed := List.mem_reverse.mp (List.mem_of_find?_eq_some hit)
      have one : pair = (key, value) := List.inj_on_of_nodup_map distinct listed given same
      exact ⟨pair, rfl, by rw [one]⟩

theorem ofList_perm {pairs others : List (κ × α)} (same : pairs.Perm others) (distinct : (pairs.map Prod.fst).Nodup) :
    ofList pairs = ofList others := by
  have apart : (others.map Prod.fst).Nodup := (same.map Prod.fst).nodup_iff.mp distinct
  refine ext_get? fun key => Option.ext fun value => ?_
  rw [get?_ofList_eq_some_iff distinct, get?_ofList_eq_some_iff apart, same.mem_iff]

end Listing

end OrderedMap

namespace OrderedSet

theorem toList_ascending {κ : Type u} [LT κ] (set : OrderedSet κ) : set.toList.Pairwise (· < ·) :=
  OrderedMap.keys_ascending set

variable {κ : Type u} [LT κ] [DecidableLT κ] [LE κ] [Std.IsLinearOrder κ] [Std.LawfulOrderLT κ]

theorem insert_toList_ne_nil (set : OrderedSet κ) (element : κ) : (set.insert element).toList ≠ [] := by
  rw [toList, OrderedMap.keys, Ne, List.map_eq_nil_iff]
  exact OrderedMap.insert_entries_ne_nil set element ()

theorem mem_of_mem_insert {set : OrderedSet κ} {element other : κ}
    (member : other ∈ (set.insert element).toList) : other = element ∨ other ∈ set.toList := by
  obtain ⟨entry, held, rfl⟩ := List.mem_map.mp member
  rcases OrderedMap.key_of_mem_insertEntry held with rfl | old
  · exact .inl rfl
  · exact .inr (List.mem_map_of_mem old)

@[simp] theorem mem_ofList_iff [DecidableEq κ] {elements : List κ} {element : κ} :
    element ∈ (ofList elements).toList ↔ element ∈ elements := by
  simp [ofList, toList]

@[simp] theorem foldl_insert_toList [DecidableEq κ] (set : OrderedSet κ) : set.toList.foldl insert ∅ = set := by
  have again := OrderedMap.ofList_entries set
  rw [OrderedMap.ofList] at again
  rw [toList, OrderedMap.keys, List.foldl_map]
  exact again

theorem ofList_eq_foldl (elements : List κ) : ofList elements = elements.foldl insert ∅ := by
  rw [ofList, OrderedMap.ofList, List.foldl_map]
  rfl

@[simp] theorem ofList_toList [DecidableEq κ] (set : OrderedSet κ) : ofList set.toList = set := by
  rw [ofList_eq_foldl, foldl_insert_toList]

end OrderedSet

end TagQuery
