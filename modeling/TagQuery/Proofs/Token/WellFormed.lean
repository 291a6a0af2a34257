import TagQuery.Proofs.OrderedMap
import TagQuery.Proofs.Text.Pieces
import TagQuery.Proofs.Text.Trim
import TagQuery.Proofs.Token.Lexed

namespace TagQuery

namespace Text

structure WrittenIn (part : CharClass → Bool) (text : String) : Prop where
  trimmed : Trimmed text.toList
  inside : ∀ c ∈ text.toList, hasClass part c

structure Names (part : CharClass → Bool) (text : String) : Prop extends WrittenIn part text where
  some : text ≠ ""

theorem writtenIn_iff (part : CharClass → Bool) (text : String) :
    WrittenIn part text ↔ Trimmed text.toList ∧ text.toList.all (hasClass part) := by
  rw [List.all_eq_true]
  exact ⟨fun written => ⟨written.trimmed, written.inside⟩, fun both => ⟨both.1, both.2⟩⟩

instance (part : CharClass → Bool) (text : String) : Decidable (WrittenIn part text) :=
  decidable_of_iff' _ (writtenIn_iff part text)

instance (part : CharClass → Bool) (text : String) : Decidable (Names part text) :=
  decidable_of_iff (WrittenIn part text ∧ text ≠ "")
    ⟨fun both => ⟨both.1, both.2⟩, fun named => ⟨named.toWrittenIn, named.some⟩⟩

/-- The spelling of a word: letters and escapes, with digits after the first of them. -/
def IsWord (word : String) : Prop :=
  ∃ c rest, word.toList = c :: rest ∧ hasClass CharClass.isWord c ∧
    ∀ d ∈ rest, hasClass CharClass.isWordPart d

theorem isWord_iff (word : String) :
    IsWord word ↔ word.toList.head?.any (hasClass CharClass.isWord) ∧
      word.toList.tail.all (hasClass CharClass.isWordPart) := by
  rw [IsWord, List.all_eq_true]
  cases word.toList with
  | nil => simp
  | cons c rest =>
    constructor
    · intro spelled
      obtain ⟨_, _, shape, first, others⟩ := spelled
      cases shape
      exact ⟨first, others⟩
    · intro both
      exact ⟨c, rest, rfl, both.1, both.2⟩

instance (word : String) : Decidable (IsWord word) :=
  decidable_of_iff' _ (isWord_iff word)

theorem writtenIn_trim {part : CharClass → Bool} {text : List Char}
    (inside : ∀ c ∈ text, hasClass part c) : WrittenIn part (String.ofList (trim text)) where
  trimmed := by
    rw [String.toList_ofList]
    exact trimmed_trim text
  inside c member := by
    rw [String.toList_ofList] at member
    exact inside c (mem_of_mem_trim member)

theorem names_trim {part : CharClass → Bool} {text : List Char} (inside : ∀ c ∈ text, hasClass part c)
    (some : trim text ≠ []) : Names part (String.ofList (trim text)) where
  toWrittenIn := writtenIn_trim inside
  some := by rwa [Ne, String.ofList_eq_empty_iff]

end Text

def Requirement.WellFormed : Requirement → Prop
  | absent => True
  | text value => Text.WrittenIn CharClass.isPairPart value ∧ value ≠ nullSentinel

theorem Requirement.ofText_wellFormed {value : String} (written : Text.WrittenIn CharClass.isPairPart value) :
    (ofText value).WellFormed := by
  unfold ofText
  split
  · trivial
  · rename_i different
    exact ⟨written, different⟩

namespace Target

structure Accepts (label : String) (values : OrderedSet Requirement) : Prop where
  label : Text.Names CharClass.isPairPart label
  some : values.toList ≠ []
  values : ∀ value ∈ values.toList, value.WellFormed

structure Requires (label : String) (value : Requirement) : Prop where
  label : Text.Names CharClass.isPairPart label
  value : value.WellFormed

def WellFormed : Target → Prop
  | eager labels => ∀ entry ∈ labels.entries, Accepts entry.1 entry.2
  | strict labels => ∀ entry ∈ labels.entries, Requires entry.1 entry.2

theorem everything_wellFormed : everything.WellFormed := by
  intro entry member
  cases member

end Target

namespace TargetPairs

theorem Spelled.requires {inside : List Char} {contents : List (String × Requirement)}
    (spelled : Spelled inside contents) : ∀ content ∈ contents, Target.Requires content.1 content.2 := by
  induction spelled with
  | done => simp
  | skip _ _ ih => exact ih
  | @pair key value inside contents named solid keyPart valuePart _ _ ih =>
    intro content member
    rcases List.mem_cons.mp member with rfl | member
    · obtain ⟨c, rest, rfl⟩ := List.exists_cons_of_ne_nil named
      have blank := CharClass.isBlank_eq_hasClass (keyPart c List.mem_cons_self)
      have visible : Text.isBlank c = false := blank.trans (solid c rfl)
      have kept : c ∈ Text.trim (c :: rest) := Text.mem_trim List.mem_cons_self visible
      exact ⟨Text.names_trim keyPart (List.ne_nil_of_mem kept),
        Requirement.ofText_wellFormed (Text.writtenIn_trim valuePart)⟩
    · exact ih content member

theorem accepts_give {labels : OrderedMap String (OrderedSet Requirement)} {label : String}
    {value : Requirement} (before : ∀ entry ∈ labels.entries, Target.Accepts entry.1 entry.2)
    (added : Target.Requires label value) :
    ∀ entry ∈ (give labels (label, value)).entries, Target.Accepts entry.1 entry.2 := by
  intro entry member
  rcases OrderedMap.key_of_mem_insertEntry member with rfl | old
  · refine ⟨added.label, OrderedSet.insert_toList_ne_nil _ _, fun other held => ?_⟩
    rcases OrderedSet.mem_of_mem_insert held with rfl | held
    · exact added.value
    · cases found : labels.get? label with
      | none =>
        rw [found] at held
        cases held
      | some values =>
        rw [found] at held
        exact (before (label, values) (OrderedMap.mem_of_get? found)).values other held
  · exact before entry old

theorem accepts_collect {contents : List (String × Requirement)}
    (required : ∀ content ∈ contents, Target.Requires content.1 content.2) :
    ∀ entry ∈ (collect contents).entries, Target.Accepts entry.1 entry.2 := by
  unfold collect
  have none : ∀ entry ∈ (∅ : OrderedMap String (OrderedSet Requirement)).entries,
      Target.Accepts entry.1 entry.2 := Target.everything_wellFormed
  generalize (∅ : OrderedMap String (OrderedSet Requirement)) = labels at none ⊢
  induction contents generalizing labels with
  | nil => exact none
  | cons content rest ih =>
    rw [List.foldl_cons]
    exact ih (fun other member => required other (List.mem_cons_of_mem _ member)) _
      (accepts_give none (required content List.mem_cons_self))

end TargetPairs

theorem Collection.names_of_mem_items {body : List Char}
    (inside : ∀ c ∈ body, hasClass CharClass.isCollectionPart c) :
    ∀ item ∈ items body, Text.Names CharClass.isItemPart item := by
  intro item member
  obtain ⟨trimmed, kept, rfl⟩ := List.mem_map.mp member
  obtain ⟨among, some⟩ := List.mem_filter.mp kept
  obtain ⟨piece, cut, rfl⟩ := List.mem_map.mp among
  refine Text.names_trim (fun c held => ?_) (by simpa using some)
  obtain ⟨held, different⟩ := Text.mem_of_mem_split cut held
  exact hasClass_isItemPart_iff.mpr ⟨inside c held, different⟩

def TokenKind.WellFormed : TokenKind → Prop
  | word kind text => kind = .ofWord text ∧ Text.IsWord text
  | collection items => ∀ item ∈ items, Text.Names CharClass.isItemPart item
  | target wanted => wanted.WellFormed
  | integer _ | terminator => True

theorem TokenKind.Spelled.wellFormed {kind : TokenKind} {span : List Char} (spelled : kind.Spelled span) :
    kind.WellFormed := by
  cases spelled with
  | @word c rest begun inside => exact ⟨rfl, c, rest, String.toList_ofList, begun, inside⟩
  | integer | terminator => trivial
  | collection _ inside => exact Collection.names_of_mem_items inside
  | eagerTarget spelled => exact TargetPairs.accepts_collect spelled.requires
  | strictTarget spelled =>
    intro entry member
    exact spelled.requires entry (OrderedMap.mem_of_mem_ofList member)

theorem Lexed.wellFormed {position : Nat} {input : List Char} {tokens : List Token}
    (lexed : Lexed position input tokens) : ∀ token ∈ tokens, token.kind.WellFormed := by
  induction lexed with
  | done => simp
  | blank _ _ ih => exact ih
  | token spelled _ _ ih =>
    intro token member
    rcases List.mem_cons.mp member with rfl | member
    · exact spelled.wellFormed
    · exact ih token member

end TagQuery
