import TagQuery.Answer.Display

namespace TagQuery.Answer

@[simp] theorem filterMap_entry (entries : List Entry) : (entries.map Item.entry).filterMap Item.entry? = entries := by
  induction entries with
  | nil => rfl
  | cons entry rest ih => exact congrArg (entry :: ·) ih

@[simp] theorem entries_map {α : Type} (make : α → Entry) (found : List α) (columns : List String)
    (changed : List RecordId) (counts : Counts) :
    entries ⟨found.map fun each => .entry (make each), columns, changed, counts⟩ = found.map make := by
  simp [entries, List.filterMap_map, Item.entry?, Function.comp_def]

@[simp] theorem mem_addHeader_iff {headers : List String} {label other : String} :
    other ∈ addHeader headers label ↔ other ∈ headers ∨ other = label := by
  unfold addHeader
  split
  · rename_i listed
    constructor
    · exact Or.inl
    · intro either
      rcases either with held | same
      · exact held
      · exact same ▸ listed
  · simp

@[simp] theorem mem_foldl_addHeader_iff {headers labels : List String} {label : String} :
    label ∈ labels.foldl addHeader headers ↔ label ∈ headers ∨ label ∈ labels := by
  induction labels generalizing headers with
  | nil => simp
  | cons first rest ih => simp [ih, or_assoc]

theorem mem_headers_iff {answer : Answer} (whole : answer.columns = []) (label : String) :
    label ∈ answer.headers ↔ ∃ entry ∈ answer.entries, label ∈ entry.tag.labels := by
  rw [headers, if_pos whole, mem_foldl_addHeader_iff, List.mem_flatMap]
  simp

end TagQuery.Answer
