import TagQuery.Proofs.OrderedMap

namespace TagQuery

universe u v

namespace OrderedMap

variable {κ : Type u} {α : Type v} [LT κ] [LE κ] [Std.LawfulOrderLT κ] [DecidableEq κ]

theorem isEmpty_eq_false_iff {map : OrderedMap κ α} :
    map.isEmpty = false ↔ ∃ key value, map.get? key = some value := by
  rw [isEmpty, List.isEmpty_eq_false_iff_exists_mem]
  constructor
  · intro some
    obtain ⟨entry, member⟩ := some
    exact ⟨entry.1, entry.2, get?_of_mem member⟩
  · intro found
    obtain ⟨key, value, held⟩ := found
    exact ⟨(key, value), mem_of_get? held⟩

def Agrees (first second : OrderedMap κ α) : Prop :=
  ∀ key held other, first.get? key = some held → second.get? key = some other → held = other

variable [DecidableLT κ] [Std.IsLinearOrder κ]

def unionWith (combine : α → α → α) (first second : OrderedMap κ α) : OrderedMap κ α :=
  .ofList <| (first.keys ++ second.keys).filterMap fun key =>
    (Option.merge combine (first.get? key) (second.get? key)).map (key, ·)

@[simp] theorem get?_unionWith (combine : α → α → α) (first second : OrderedMap κ α) (key : κ) :
    (first.unionWith combine second).get? key = Option.merge combine (first.get? key) (second.get? key) := by
  rw [unionWith, get?_ofList]
  generalize paired : (first.keys ++ second.keys).filterMap _ = pairs
  cases hit : pairs.reverse.find? (·.1 = key) with
  | some pair =>
    have same : pair.1 = key := by simpa using List.find?_some hit
    have listed := List.mem_reverse.mp (List.mem_of_find?_eq_some hit)
    rw [← paired] at listed
    obtain ⟨other, -, given⟩ := List.mem_filterMap.mp listed
    obtain ⟨value, merged, rfl⟩ := Option.map_eq_some_iff.mp given
    rw [← same, merged]
    rfl
  | none =>
    cases merged : Option.merge combine (first.get? key) (second.get? key) with
    | none => rfl
    | some value =>
      -- One of the maps has the key, so there is a pair for it.
      have listed : key ∈ first.keys ++ second.keys := by
        apply Decidable.byContradiction
        intro missing
        rw [List.mem_append, not_or] at missing
        rw [(get?_eq_none_iff first key).mpr missing.1, (get?_eq_none_iff second key).mpr missing.2] at merged
        cases merged
      have given : (key, value) ∈ pairs := by
        rw [← paired]
        exact List.mem_filterMap.mpr ⟨key, listed, by rw [merged]; rfl⟩
      have missed := List.find?_eq_none.mp hit (key, value) (List.mem_reverse.mpr given)
      exact absurd (decide_eq_true rfl) missed

theorem isEmpty_unionWith {first : OrderedMap κ α} (combine : α → α → α) (some : first.isEmpty = false)
    (second : OrderedMap κ α) : (first.unionWith combine second).isEmpty = false := by
  obtain ⟨key, value, held⟩ := isEmpty_eq_false_iff.mp some
  apply isEmpty_eq_false_iff.mpr
  refine ⟨key, ?_⟩
  cases there : second.get? key <;> simp [held, there]

end OrderedMap

namespace OrderedSet

variable {κ : Type u} [LT κ] [DecidableLT κ] [LE κ] [Std.IsLinearOrder κ] [Std.LawfulOrderLT κ]

def union (first second : OrderedSet κ) : OrderedSet κ := ofList (first.toList ++ second.toList)

variable [DecidableEq κ]

@[simp] theorem mem_union_iff {first second : OrderedSet κ} {element : κ} :
    element ∈ (first.union second).toList ↔ element ∈ first.toList ∨ element ∈ second.toList := by
  simp [union]

@[simp] theorem mem_insert_iff {set : OrderedSet κ} {element other : κ} :
    other ∈ (set.insert element).toList ↔ other = element ∨ other ∈ set.toList := by
  refine ⟨mem_of_mem_insert, fun given => ?_⟩
  apply Decidable.byContradiction
  intro missing
  have none := ((set.insert element).get?_eq_none_iff other).mpr missing
  rw [insert, OrderedMap.get?_insert] at none
  split at none
  · cases none
  · rename_i different
    exact (set.get?_eq_none_iff other).mp none (given.resolve_left different)

end OrderedSet

end TagQuery
