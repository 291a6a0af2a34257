import TagQuery.Json.Basic

namespace TagQuery.Json

abbrev ReadsBack {α : Type} (write : α → Json) (read : Json → Option α) : Prop :=
  ∀ value, read (write value) = some value

@[simp] theorem string_readsBack : ReadsBack string string? := fun _ => rfl

@[simp] theorem bool_readsBack : ReadsBack bool bool? := fun _ => rfl

@[simp] theorem optional_readsBack : ReadsBack ofOption (optional? string?) := by
  intro value
  cases value <;> rfl

theorem uint64?_ofNat (count : Nat) :
    uint64? (ofNat count) = if count < UInt64.size then some (.ofNat count) else none := by
  have fits : (0 ≤ Int.ofNat count ∧ Int.ofNat count < UInt64.size) ↔ count < UInt64.size := by
    rw [Int.ofNat_eq_natCast, Int.ofNat_lt]
    exact and_iff_right (Int.natCast_nonneg count)
  simp only [uint64?, ofNat, fits]
  rfl

@[simp] theorem uint64_readsBack : ReadsBack (fun value : UInt64 => ofNat value.toNat) uint64? := by
  intro value
  rw [uint64?_ofNat, if_pos value.toNat_lt, UInt64.ofNat_toNat]

@[simp] theorem count?_ofNat (count : Nat) :
    count? (ofNat count) = if count < UInt64.size then some count else none := by
  by_cases fits : count < UInt64.size <;> simp [count?, uint64?_ofNat, fits]

@[simp] theorem int64_readsBack : ReadsBack (fun value : Int64 => integer value.toInt) int64? := by
  intro value
  have fits : Int64.minValue.toInt ≤ value.toInt ∧ value.toInt ≤ Int64.maxValue.toInt :=
    ⟨Int64.minValue_le_toInt value, Int64.toInt_le value⟩
  rw [int64?, if_pos fits, Int64.ofInt_toInt]

section Combined

variable {α : Type} {write : α → Json} {read : Json → Option α} (back : ReadsBack write read)

include back

theorem ReadsBack.list : ReadsBack (fun values => array (values.map write)) (list? read) := by
  intro values
  rw [list?]
  induction values with
  | nil => rfl
  | cons value rest ih => rw [List.map_cons, List.mapM_cons, back value, ih]; rfl

theorem ReadsBack.fields (entries : List (String × α)) :
    fields? read (object (entries.map fun entry => (entry.1, write entry.2))) = some entries := by
  rw [fields?]
  induction entries with
  | nil => rfl
  | cons entry rest ih => rw [List.map_cons, List.mapM_cons, back entry.2, ih]; rfl

end Combined

end TagQuery.Json
