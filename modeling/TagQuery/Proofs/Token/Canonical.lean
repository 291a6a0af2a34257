import TagQuery.Proofs.Token.WellFormed

namespace TagQuery

theorem Text.IsWord.spelled {word : String} (written : Text.IsWord word) :
    TokenKind.Spelled (.word (.ofWord word) word) word.toList := by
  obtain ⟨c, rest, whole, begun, inside⟩ := written
  have spelled := TokenKind.Spelled.word begun inside
  rwa [← whole, String.ofList_toList] at spelled

theorem TokenKind.spelled_integer (number : UInt64) :
    TokenKind.Spelled (.integer number) (toString number.toNat).toList := by
  rw [Nat.toString_eq_repr, Nat.toList_repr]
  have value : Lexeme.decimalValue (Nat.toDigits 10 number.toNat) = number.toNat := by
    rw [Lexeme.decimalValue, ← Nat.ofDigitChars_eq_foldl, Nat.ofDigitChars_ten_toDigits]
  have decimal : ∀ c ∈ Nat.toDigits 10 number.toNat, c.isDigit :=
    fun c member => Nat.isDigit_of_mem_toDigits (by decide) (by decide) member
  have fits : Lexeme.decimalValue (Nat.toDigits 10 number.toNat) < UInt64.size := by
    rw [value]
    exact number.toNat_lt
  have spelled := TokenKind.Spelled.integer Nat.toDigits_ne_nil decimal fits
  rwa [value, UInt64.ofNat_toNat] at spelled

namespace Text

variable {part : CharClass → Bool} {text : String}

theorem Names.trim_eq (named : Names part text) : String.ofList (trim text.toList) = text := by
  rw [named.trimmed.trim_eq, String.ofList_toList]

theorem Names.toList_ne_nil (named : Names part text) : text.toList ≠ [] := by
  rw [Ne, String.toList_eq_nil_iff]
  exact named.some

theorem WrittenIn.not_mem {c : Char} (written : WrittenIn part text) (other : hasClass part c = false) :
    c ∉ text.toList := by
  intro member
  rw [written.inside c member] at other
  cases other

theorem nullSentinel_writtenIn (escape : part .escape) (letter : part .letter) :
    WrittenIn part nullSentinel where
  trimmed := by
    have letters : nullSentinel.toList = ['\\', 'N', 'u', 'l', 'l'] := rfl
    rw [letters]
    exact ⟨fun c first => by cases first; rfl, fun c last => by cases last; rfl⟩
  inside c member := by
    have classes : nullSentinel.toList.all
        (hasClass fun charClass => charClass = .escape ∨ charClass = .letter) := rfl
    refine hasClass_imp (fun charClass either => ?_) (List.all_eq_true.mp classes c member)
    rcases of_decide_eq_true either with rfl | rfl
    · exact escape
    · exact letter

end Text

namespace Collection

def canonical (items : List String) : String := "(" ++ ",".intercalate items ++ ")"

theorem items_intercalate {texts : List String}
    (named : ∀ text ∈ texts, Text.Names CharClass.isItemPart text) :
    items ([','].intercalate (texts.map String.toList)) = texts := by
  cases begun : texts with
  | nil => rfl
  | cons text rest =>
    rw [← begun]
    have solid : ∀ piece ∈ texts.map String.toList, ',' ∉ piece := by
      intro piece member
      obtain ⟨text, listed, rfl⟩ := List.mem_map.mp member
      exact (named text listed).not_mem (by decide)
    have trimmed : (texts.map String.toList).map Text.trim = texts.map String.toList := by
      rw [List.map_map]
      exact List.map_congr_left fun text listed => (named text listed).trimmed.trim_eq
    have kept : (texts.map String.toList).filter (· ≠ []) = texts.map String.toList := by
      refine List.filter_eq_self.mpr fun piece member => ?_
      obtain ⟨text, listed, rfl⟩ := List.mem_map.mp member
      simpa using (named text listed).some
    rw [items, itemsOf, Text.split_intercalate (by simp [begun]) solid, trimmed, kept, List.map_map]
    exact (List.map_congr_left fun text _ => String.ofList_toList).trans (List.map_id texts)

theorem spelled_canonical {texts : List String}
    (named : ∀ text ∈ texts, Text.Names CharClass.isItemPart text) :
    TokenKind.Spelled (.collection texts) (canonical texts).toList := by
  have inside : ∀ c ∈ [','].intercalate (texts.map String.toList), hasClass CharClass.isCollectionPart c := by
    intro c member
    rcases Text.mem_intercalate member with rfl | ⟨piece, listed, held⟩
    · decide
    · obtain ⟨text, among, rfl⟩ := List.mem_map.mp listed
      exact (hasClass_isItemPart_iff.mp ((named text among).inside c held)).1
  have spelled := TokenKind.Spelled.collection (.inl rfl) inside
  rw [items_intercalate named] at spelled
  simpa [canonical, String.toList_intercalate] using spelled

end Collection

namespace TargetPairs

def pairText (content : String × Requirement) : String := content.1 ++ "=" ++ content.2.display

theorem display_writtenIn {value : Requirement} (wellFormed : value.WellFormed) :
    Text.WrittenIn CharClass.isPairPart value.display := by
  cases value with
  | absent => exact Text.nullSentinel_writtenIn rfl rfl
  | text value => exact wellFormed.1

theorem ofText_display {value : Requirement} (wellFormed : value.WellFormed) :
    Requirement.ofText value.display = value := by
  cases value with
  | absent => rfl
  | text value => exact if_neg wellFormed.2

theorem contentOf_display {label : String} {value : Requirement} (required : Target.Requires label value) :
    contentOf label.toList value.display.toList = (label, value) := by
  have written := display_writtenIn required.value
  rw [contentOf, required.label.trim_eq, written.trimmed.trim_eq, String.ofList_toList,
    ofText_display required.value]

theorem spelled_pair {label : String} {value : Requirement} {inside : List Char}
    {contents : List (String × Requirement)} (required : Target.Requires label value)
    (ended : ∀ c ∈ inside.head?, c = ',') (others : Spelled inside contents) :
    Spelled ((pairText (label, value)).toList ++ inside) ((label, value) :: contents) := by
  have solid : ∀ c ∈ label.toList.head?, hasClass (· = .whitespace) c = false := by
    intro c first
    have visible := required.label.trimmed.start c first
    have blank := CharClass.isBlank_eq_hasClass (required.label.inside c (List.mem_of_mem_head? first))
    exact blank.symm.trans visible
  have spelled := Spelled.pair required.label.toList_ne_nil solid required.label.inside
    (display_writtenIn required.value).inside ended others
  rw [contentOf_display required] at spelled
  simpa [pairText] using spelled

theorem spelled_pairs {contents : List (String × Requirement)}
    (required : ∀ content ∈ contents, Target.Requires content.1 content.2) :
    Spelled ([','].intercalate ((contents.map pairText).map String.toList)) contents := by
  induction contents with
  | nil => exact .done
  | cons content rest ih =>
    have first := required content List.mem_cons_self
    have later := ih fun other member => required other (List.mem_cons_of_mem _ member)
    cases rest with
    | nil =>
      rw [List.map_cons, List.map_cons, List.map_nil, List.map_nil, List.intercalate_singleton,
        ← List.append_nil (pairText content).toList]
      exact spelled_pair first (by simp) .done
    | cons next rest =>
      rw [List.map_cons, List.map_cons, List.map_cons, List.map_cons, List.intercalate_cons_cons,
        List.append_assoc]
      exact spelled_pair first (by simp) (.skip (.inl rfl) later)

theorem foldl_give {label : String} {values : List Requirement} (some : values ≠ [])
    (labels : OrderedMap String (OrderedSet Requirement)) :
    (values.map (label, ·)).foldl give labels =
      labels.insert label (values.foldl OrderedSet.insert ((labels.get? label).getD ∅)) := by
  induction values generalizing labels with
  | nil => exact absurd rfl some
  | cons value rest ih =>
    cases rest with
    | nil => rfl
    | cons next rest =>
      rw [List.map_cons, List.foldl_cons, ih (List.cons_ne_nil _ _)]
      simp [give]

theorem foldl_give_fresh {entries : List (String × OrderedSet Requirement)}
    (labels : OrderedMap String (OrderedSet Requirement)) (distinct : (entries.map Prod.fst).Nodup)
    (some : ∀ entry ∈ entries, entry.2.toList ≠ []) (fresh : ∀ entry ∈ entries, labels.get? entry.1 = none) :
    (entries.flatMap fun entry => entry.2.toList.map (entry.1, ·)).foldl give labels =
      entries.foldl (fun labels entry => labels.insert entry.1 entry.2) labels := by
  induction entries generalizing labels with
  | nil => rfl
  | cons entry rest ih =>
    rw [List.map_cons, List.nodup_cons] at distinct
    have first := fresh entry List.mem_cons_self
    simp only [List.flatMap_cons, List.foldl_append, foldl_give (some entry List.mem_cons_self), first,
      Option.getD_none, OrderedSet.foldl_insert_toList, List.foldl_cons]
    refine ih _ distinct.2 (fun other member => some other (List.mem_cons_of_mem _ member)) ?_
    intro other member
    have different : other.1 ≠ entry.1 := fun same => distinct.1 (same ▸ List.mem_map_of_mem member)
    simpa [different] using fresh other (List.mem_cons_of_mem _ member)

end TargetPairs

namespace Target

def contents : Target → List (String × Requirement)
  | eager labels => labels.entries.flatMap fun entry => entry.2.toList.map (entry.1, ·)
  | strict labels => labels.entries

def opener : Target.Mode → String
  | .eager => "\x7b"
  | .strict => "&\x7b"

def canonical (target : Target) : String :=
  opener target.mode ++ ",".intercalate (target.contents.map TargetPairs.pairText) ++ "\x7d"

theorem requires_contents {target : Target} (wellFormed : target.WellFormed) :
    ∀ content ∈ target.contents, Requires content.1 content.2 := by
  cases target with
  | strict labels => exact wellFormed
  | eager labels =>
    intro content member
    obtain ⟨entry, listed, given⟩ := List.mem_flatMap.mp member
    obtain ⟨value, held, rfl⟩ := List.mem_map.mp given
    have accepted := wellFormed entry listed
    exact ⟨accepted.label, accepted.values value held⟩

theorem collect_contents {labels : OrderedMap String (OrderedSet Requirement)}
    (wellFormed : (eager labels).WellFormed) : TargetPairs.collect (eager labels).contents = labels := by
  rw [TargetPairs.collect, contents, TargetPairs.foldl_give_fresh ∅ labels.nodup_keys
    (fun entry member => (wellFormed entry member).some) (by simp)]
  exact labels.ofList_entries

theorem spelled_canonical {target : Target} (wellFormed : target.WellFormed) :
    TokenKind.Spelled (.target target) target.canonical.toList := by
  have pairs := TargetPairs.spelled_pairs (requires_contents wellFormed)
  cases target with
  | eager labels =>
    have spelled := TokenKind.Spelled.eagerTarget pairs
    rw [collect_contents wellFormed] at spelled
    simpa [canonical, opener, mode, String.toList_intercalate] using spelled
  | strict labels =>
    have spelled := TokenKind.Spelled.strictTarget pairs labels.nodup_keys
    simpa [canonical, contents, opener, mode, String.toList_intercalate] using spelled

end Target

end TagQuery
