import TagQuery.OrderedMap.Basic

namespace TagQuery.OrderedMap

universe u v

section Lookup

variable {κ : Type u} {α : Type v} [LT κ] [DecidableEq κ]

@[simp] theorem get?_empty (key : κ) : (∅ : OrderedMap κ α).get? key = none := rfl

theorem mem_of_get? {map : OrderedMap κ α} {key : κ} {value : α} (found : map.get? key = some value) :
    (key, value) ∈ map.entries := by
  obtain ⟨entry, hit, rfl⟩ := Option.map_eq_some_iff.mp found
  have same : entry.1 = key := by simpa using List.find?_some hit
  exact same ▸ List.mem_of_find?_eq_some hit

theorem get?_eq_none_iff (map : OrderedMap κ α) (key : κ) : map.get? key = none ↔ key ∉ map.keys := by
  simp only [get?, keys, Option.map_eq_none_iff, List.find?_eq_none, List.mem_map, decide_eq_true_eq]
  exact ⟨fun none ⟨entry, member, same⟩ => none entry member same,
    fun none entry member same => none ⟨entry, member, same⟩⟩

theorem contains_iff_mem_keys (map : OrderedMap κ α) (key : κ) : map.contains key ↔ key ∈ map.keys := by
  simp [contains, keys]

theorem contains_eq_isSome_get? (map : OrderedMap κ α) (key : κ) :
    map.contains key = (map.get? key).isSome := by
  simp [contains, get?, List.isSome_find?]

@[simp] theorem get?_erase (map : OrderedMap κ α) (key other : κ) :
    (map.erase key).get? other = if other = key then none else map.get? other := by
  unfold get? erase
  rw [List.find?_filter]
  split
  · rename_i same
    simp [same]
  · rename_i different
    congr 2
    funext entry
    by_cases hit : entry.1 = other <;> simp [hit, different]

@[simp] theorem get?_modify (map : OrderedMap κ α) (key other : κ) (change : α → α) :
    (map.modify key change).get? other =
      if other = key then (map.get? other).map change else map.get? other := by
  unfold get? modify
  rw [List.find?_map]
  have kept : ((fun entry : κ × α => decide (entry.1 = other)) ∘ fun entry : κ × α =>
      if entry.1 = key then (entry.1, change entry.2) else entry) = fun entry => decide (entry.1 = other) := by
    funext entry
    by_cases held : entry.1 = key <;> simp [held]
  rw [kept]
  cases hit : map.entries.find? (fun entry => decide (entry.1 = other)) with
  | none => simp
  | some entry =>
    have same : entry.1 = other := by simpa using List.find?_some hit
    by_cases wanted : other = key <;> simp [same, wanted]

end Lookup

section Uniqueness

variable {κ : Type u} {α : Type v} [LT κ] [LE κ] [Std.LawfulOrderLT κ]

theorem value_unique (map : OrderedMap κ α) {key : κ} {value other : α}
    (first : (key, value) ∈ map.entries) (second : (key, other) ∈ map.entries) : value = other := by
  obtain ⟨entries, ascending⟩ := map
  induction entries with
  | nil => simp at first
  | cons head rest ih =>
    obtain ⟨below, tail⟩ := List.pairwise_cons.mp ascending
    rcases List.mem_cons.mp first with same | first <;> rcases List.mem_cons.mp second with same' | second
    · exact congrArg Prod.snd (same.trans same'.symm)
    · exact absurd (same ▸ below _ second) Std.lt_irrefl
    · exact absurd (same' ▸ below _ first) Std.lt_irrefl
    · exact ih tail first second

theorem get?_eq_some_iff [DecidableEq κ] (map : OrderedMap κ α) (key : κ) (value : α) :
    map.get? key = some value ↔ (key, value) ∈ map.entries := by
  refine ⟨mem_of_get?, fun member => ?_⟩
  cases found : map.get? key with
  | none => exact absurd (List.mem_map_of_mem member) ((get?_eq_none_iff map key).mp found)
  | some held => exact congrArg some (map.value_unique (mem_of_get? found) member)

variable [Std.IsLinearOrder κ]

theorem ext_mem {first second : OrderedMap κ α}
    (same : ∀ entry, entry ∈ first.entries ↔ entry ∈ second.entries) : first = second := by
  obtain ⟨entries, ascending⟩ := first
  obtain ⟨others, ascending'⟩ := second
  refine ext ?_
  induction entries generalizing others with
  | nil => exact (List.eq_nil_iff_forall_not_mem.mpr fun entry member => by simpa using (same entry).mpr member).symm
  | cons head rest ih =>
    obtain ⟨below, tail⟩ := List.pairwise_cons.mp ascending
    cases others with
    | nil => simpa using (same head).mp List.mem_cons_self
    | cons head' rest' =>
      obtain ⟨below', tail'⟩ := List.pairwise_cons.mp ascending'
      have heads : head = head' := by
        rcases List.mem_cons.mp ((same head).mp List.mem_cons_self) with equal | later
        · exact equal
        · rcases List.mem_cons.mp ((same head').mpr List.mem_cons_self) with equal | later'
          · exact equal.symm
          · exact absurd (Std.lt_trans (below _ later') (below' _ later)) Std.lt_irrefl
      subst heads
      refine congrArg (head :: ·) (ih tail rest' tail' fun entry => ?_)
      have fresh (entry : κ × α) (member : entry ∈ rest) : entry ≠ head := fun equal =>
        absurd (equal ▸ below _ member) Std.lt_irrefl
      have fresh' (entry : κ × α) (member : entry ∈ rest') : entry ≠ head := fun equal =>
        absurd (equal ▸ below' _ member) Std.lt_irrefl
      constructor
      · intro member
        exact (List.mem_cons.mp ((same entry).mp (List.mem_cons_of_mem _ member))).resolve_left (fresh _ member)
      · intro member
        exact (List.mem_cons.mp ((same entry).mpr (List.mem_cons_of_mem _ member))).resolve_left (fresh' _ member)

variable [DecidableEq κ]

theorem ext_get? {first second : OrderedMap κ α} (same : ∀ key, first.get? key = second.get? key) :
    first = second :=
  ext_mem fun (key, value) => by rw [← get?_eq_some_iff, ← get?_eq_some_iff, same]

variable [DecidableLT κ]

theorem find?_insertEntry (key other : κ) (value : α) (entries : List (κ × α)) :
    (insertEntry key value entries).find? (·.1 = other) =
      if other = key then some (key, value) else entries.find? (·.1 = other) := by
  induction entries with
  | nil => by_cases wanted : other = key <;> simp [insertEntry, wanted, Ne.symm]
  | cons head rest ih =>
    obtain ⟨held, old⟩ := head
    simp only [insertEntry]
    by_cases wanted : other = key
    · subst wanted
      simp only [↓reduceIte] at ih ⊢
      split
      · simp
      · split
        · rename_i below
          have different : held ≠ other := fun equal => absurd (equal ▸ below) Std.lt_irrefl
          simp [different, ih]
        · simp
    · simp only [wanted, ↓reduceIte] at ih ⊢
      split
      · simp [Ne.symm wanted]
      · split
        · simp only [List.find?_cons, ih]
        · rename_i notBelow notAbove
          have equal : key = held := by
            rcases Std.lt_trichotomy key held with below | equal | above
            · exact absurd below notBelow
            · exact equal
            · exact absurd above notAbove
          simp [← equal, Ne.symm wanted]

@[simp] theorem get?_insert (map : OrderedMap κ α) (key other : κ) (value : α) :
    (map.insert key value).get? other = if other = key then some value else map.get? other := by
  unfold get? insert
  rw [find?_insertEntry]
  split <;> rfl

theorem get?_foldl_insert (map : OrderedMap κ α) (pairs : List (κ × α)) (key : κ) :
    (pairs.foldl (fun map pair => map.insert pair.1 pair.2) map).get? key =
      ((pairs.reverse.find? (·.1 = key)).map (·.2)).or (map.get? key) := by
  induction pairs generalizing map with
  | nil => rfl
  | cons pair rest ih =>
    rw [List.foldl_cons, ih, get?_insert, List.reverse_cons, List.find?_append]
    cases rest.reverse.find? (·.1 = key) with
    | some later => rfl
    | none => by_cases wanted : key = pair.1 <;> simp [wanted, Ne.symm]

theorem get?_ofList (pairs : List (κ × α)) (key : κ) :
    (ofList pairs).get? key = (pairs.reverse.find? (·.1 = key)).map (·.2) := by
  rw [ofList, get?_foldl_insert]
  exact Option.or_none

end Uniqueness

end TagQuery.OrderedMap
