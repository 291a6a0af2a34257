import TagQuery.Json.Answer
import TagQuery.Proofs.Answer
import TagQuery.Proofs.Repeats
import TagQuery.Proofs.Tag

namespace TagQuery

namespace Json

def item? (index : Nat) : Json → Option Json
  | array items => items[index]?
  | _ => none

def member? (name : String) : Json → Option Json
  | object fields => field? fields name
  | _ => none

end Json

@[simp] theorem Tag.member?_toJson (tag : Tag) (label : String) :
    tag.toJson.member? label = (tag.entry? label).map Json.ofOption := by
  have listed := OrderedMap.get?_ofList (tag.fields.mapValues Json.ofOption).entries label
  rw [OrderedMap.ofList_entries, OrderedMap.get?_mapValues] at listed
  exact listed.symm

namespace Answer

/-- The labels of entries, each of them where it comes up first. -/
structure FirstSeen (entries : List Entry) (headers : List String) : Prop where
  distinct : headers.Nodup
  complete : ∀ label, label ∈ headers ↔ ∃ entry ∈ entries, label ∈ entry.tag.labels
  order : headers.Pairwise fun earlier later =>
    (entries.flatMap (·.tag.labels)).idxOf earlier < (entries.flatMap (·.tag.labels)).idxOf later
  ascending : ∀ entry ∈ entries, entry.tag.labels.Pairwise (· < ·)

theorem foldl_addHeader (labels : List String) : labels.foldl addHeader [] = labels.eraseDups := by
  induction labels using List.reverseRecOn with
  | nil => rfl
  | append_singleton before last ih =>
    rw [List.foldl_concat, ih, eraseDups_concat, addHeader]
    simp only [List.mem_eraseDups]

theorem headers_firstSeen {answer : Answer} (whole : answer.columns = []) :
    FirstSeen answer.entries answer.headers := by
  have found : answer.headers = (answer.entries.flatMap (·.tag.labels)).eraseDups := by
    rw [headers, if_pos whole, foldl_addHeader]
  refine ⟨?_, mem_headers_iff whole, ?_, fun entry _ => entry.tag.fields.keys_ascending⟩
  · rw [found]
    exact nodup_eraseDups _
  · rw [found]
    exact pairwise_idxOf_eraseDups _

def jsonTag? (answer : Answer) (index : Nat) : Option Json := (answer.itemsToJson.item? index).bind (·.member? "tag")

/-- The text that the JSON of an answer has for a label of an item, or a dash. -/
def jsonCell (answer : Answer) (index : Nat) (label : String) : String :=
  (((answer.jsonTag? index).bind (·.member? label)).bind Json.string?).getD "-"

/-- The JSON and the table of an answer say what its entries say. -/
structure Shown (answer : Answer) : Prop where
  json : answer.itemsToJson =
    .array (answer.entries.map fun entry => .object [("id", .string entry.id.path), ("tag", entry.tag.toJson)])
  tags : ∀ index entry, answer.entries[index]? = some entry → ∃ tag, answer.jsonTag? index = some tag ∧
    ∀ label, tag.member? label = (entry.tag.entry? label).map Json.ofOption
  table : answer.entries ≠ [] → ∀ render, answer.table render = render answer.cells
  cells : answer.entries ≠ [] → answer.cells = ("id" :: answer.headers) :: answer.entries.mapIdx fun index entry =>
    entry.id.path :: answer.headers.map (answer.jsonCell index)

section Views

variable {answer : Answer} (only : answer.items = answer.entries.map .entry)

include only

theorem itemsToJson_eq : answer.itemsToJson =
    .array (answer.entries.map fun entry => .object [("id", .string entry.id.path), ("tag", entry.tag.toJson)]) := by
  simp [itemsToJson, only, Item.toJson, Entry.toJson, RecordId.toJson]

theorem jsonTag?_eq (index : Nat) : answer.jsonTag? index = answer.entries[index]?.map (·.tag.toJson) := by
  rw [jsonTag?, itemsToJson_eq only, Json.item?, List.getElem?_map]
  cases answer.entries[index]? <;> rfl

theorem jsonCell_eq {index : Nat} {entry : Entry} (listed : answer.entries[index]? = some entry) (label : String) :
    answer.jsonCell index label = (entry.tag.get? label).getD nullCell := by
  simp only [jsonCell, jsonTag?_eq only, listed, Option.map_some, Option.bind_some, Tag.member?_toJson, Tag.get?]
  cases entry.tag.entry? label with
  | none => rfl
  | some value => cases value <;> rfl

theorem shown_of_entries : answer.Shown where
  json := itemsToJson_eq only
  tags index entry listed := by
    exact ⟨entry.tag.toJson, by simp [jsonTag?_eq only, listed], entry.tag.member?_toJson⟩
  table some render := by
    simp [table, isEmpty, only, some]
  cells some := by
    rw [cells, if_neg some]
    congr 1
    apply List.ext_getElem?
    intro index
    rw [List.getElem?_map, List.getElem?_mapIdx]
    cases listed : answer.entries[index]? with
    | none => rfl
    | some entry =>
      have row := List.map_congr_left fun label (_ : label ∈ answer.headers) => jsonCell_eq only listed label
      rw [Option.map_some, Option.map_some, row]
      rfl

end Views

end Answer

end TagQuery
