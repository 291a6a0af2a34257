namespace TagQuery

universe u v

/-- A finite map, listed in strictly ascending order of its keys. -/
structure OrderedMap (κ : Type u) (α : Type v) [LT κ] where
  entries : List (κ × α)
  ascending : entries.Pairwise fun earlier later => earlier.1 < later.1

namespace OrderedMap

section Order

variable {κ : Type u} {α : Type v} [LT κ]

instance [DecidableEq κ] [DecidableEq α] : DecidableEq (OrderedMap κ α) := fun first second =>
  decidable_of_iff (first.entries = second.entries) <| by
    cases first
    cases second
    simp

theorem ext {first second : OrderedMap κ α} (entries : first.entries = second.entries) :
    first = second := by
  cases first
  cases second
  cases entries
  rfl

def empty : OrderedMap κ α := ⟨[], .nil⟩

instance : EmptyCollection (OrderedMap κ α) := ⟨empty⟩

instance : Inhabited (OrderedMap κ α) := ⟨empty⟩

def keys (map : OrderedMap κ α) : List κ := map.entries.map (·.1)

def values (map : OrderedMap κ α) : List α := map.entries.map (·.2)

def size (map : OrderedMap κ α) : Nat := map.entries.length

def isEmpty (map : OrderedMap κ α) : Bool := map.entries.isEmpty

variable [DecidableEq κ]

def get? (map : OrderedMap κ α) (key : κ) : Option α :=
  (map.entries.find? (·.1 = key)).map (·.2)

def contains (map : OrderedMap κ α) (key : κ) : Bool := map.entries.any (·.1 = key)

def erase (map : OrderedMap κ α) (key : κ) : OrderedMap κ α :=
  ⟨map.entries.filter (·.1 ≠ key), map.ascending.filter _⟩

def modify (map : OrderedMap κ α) (key : κ) (change : α → α) : OrderedMap κ α where
  entries := map.entries.map fun entry => if entry.1 = key then (entry.1, change entry.2) else entry
  ascending := by
    rw [List.pairwise_map]
    refine map.ascending.imp ?_
    intro earlier later less
    split <;> split <;> exact less

end Order

section Insertion

variable {κ : Type u} {α : Type v} [LT κ] [DecidableLT κ]

def insertEntry (key : κ) (value : α) : List (κ × α) → List (κ × α)
  | [] => [(key, value)]
  | (other, held) :: rest =>
    if key < other then (key, value) :: (other, held) :: rest
    else if other < key then (other, held) :: insertEntry key value rest
    else (key, value) :: rest

theorem key_of_mem_insertEntry {key : κ} {value : α} {entries : List (κ × α)} {entry : κ × α}
    (member : entry ∈ insertEntry key value entries) : entry = (key, value) ∨ entry ∈ entries := by
  induction entries with
  | nil => exact .inl (List.mem_singleton.mp member)
  | cons head rest ih =>
    obtain ⟨other, held⟩ := head
    simp only [insertEntry] at member
    split at member
    · exact List.mem_cons.mp member
    · split at member
      · rcases List.mem_cons.mp member with same | member
        · exact .inr (same ▸ List.mem_cons_self)
        · exact (ih member).imp_right (List.mem_cons_of_mem _)
      · rcases List.mem_cons.mp member with same | member
        · exact .inl same
        · exact .inr (List.mem_cons_of_mem _ member)

variable [LE κ] [Std.IsLinearOrder κ] [Std.LawfulOrderLT κ]

theorem pairwise_insertEntry (key : κ) (value : α) {entries : List (κ × α)}
    (ascending : entries.Pairwise fun earlier later => earlier.1 < later.1) :
    (insertEntry key value entries).Pairwise fun earlier later => earlier.1 < later.1 := by
  induction entries with
  | nil => simp [insertEntry]
  | cons head rest ih =>
    obtain ⟨other, held⟩ := head
    obtain ⟨below, tail⟩ := List.pairwise_cons.mp ascending
    simp only [insertEntry]
    split
    · rename_i less
      refine List.pairwise_cons.mpr ⟨fun entry member => ?_, ascending⟩
      rcases List.mem_cons.mp member with rfl | member
      · exact less
      · exact Std.lt_trans less (below _ member)
    · split
      · rename_i greater
        refine List.pairwise_cons.mpr ⟨fun entry member => ?_, ih tail⟩
        rcases key_of_mem_insertEntry member with rfl | member
        · exact greater
        · exact below _ member
      · rename_i notLess notGreater
        have same : key = other := by
          rcases Std.lt_trichotomy key other with less | same | greater
          · exact absurd less notLess
          · exact same
          · exact absurd greater notGreater
        exact List.pairwise_cons.mpr ⟨fun entry member => same ▸ below _ member, tail⟩

def insert (map : OrderedMap κ α) (key : κ) (value : α) : OrderedMap κ α :=
  ⟨insertEntry key value map.entries, pairwise_insertEntry key value map.ascending⟩

def ofList (pairs : List (κ × α)) : OrderedMap κ α :=
  pairs.foldl (fun map pair => map.insert pair.1 pair.2) empty

end Insertion

end OrderedMap

abbrev OrderedSet (κ : Type u) [LT κ] := OrderedMap κ Unit

namespace OrderedSet

variable {κ : Type u} [LT κ]

def toList (set : OrderedSet κ) : List κ := set.keys

variable [DecidableLT κ] [LE κ] [Std.IsLinearOrder κ] [Std.LawfulOrderLT κ]

def insert (set : OrderedSet κ) (element : κ) : OrderedSet κ := OrderedMap.insert set element ()

def ofList (elements : List κ) : OrderedSet κ := OrderedMap.ofList (elements.map (·, ()))

end OrderedSet

end TagQuery
