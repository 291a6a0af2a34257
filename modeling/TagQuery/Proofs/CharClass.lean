import TagQuery.CharClass.OfText
import TagQuery.Text.Blank

namespace TagQuery

theorem hasClass_of_ofChar? {property : CharClass → Bool} {c : Char} {charClass : CharClass}
    (classified : CharClass.ofChar? c = some charClass) : hasClass property c = property charClass := by
  rw [hasClass, classified, Option.any_some]

theorem hasClass_iff {property : CharClass → Bool} {c : Char} :
    hasClass property c ↔ ∃ charClass, CharClass.ofChar? c = some charClass ∧ property charClass := by
  simp [hasClass, Option.any_eq_true]

theorem hasClass_imp {property weaker : CharClass → Bool}
    (implied : ∀ charClass, property charClass → weaker charClass) {c : Char}
    (held : hasClass property c) : hasClass weaker c := by
  obtain ⟨charClass, classified, holds⟩ := hasClass_iff.mp held
  exact hasClass_iff.mpr ⟨charClass, classified, implied charClass holds⟩

theorem hasClass_eq_false_imp {property weaker : CharClass → Bool}
    (implied : ∀ charClass, property charClass → weaker charClass) {c : Char}
    (refused : hasClass weaker c = false) : hasClass property c = false :=
  Bool.eq_false_iff.mpr fun held => by simp [hasClass_imp implied held] at refused

theorem hasClass_isWordPart {c : Char} (begun : hasClass CharClass.isWord c) :
    hasClass CharClass.isWordPart c :=
  hasClass_imp (fun charClass word => by cases charClass <;> first | rfl | cases word) begun

namespace CharClass

theorem ascii_of_le {c last : Char} (upTo : c.val ≤ last.val) (ascii : last.toNat < 128) :
    c.toNat < 128 :=
  Nat.lt_of_le_of_lt (UInt32.le_iff_toNat_le.mp upTo) ascii

theorem ascii_of_isAlpha {c : Char} (letter : c.isAlpha) : c.toNat < 128 := by
  rcases Bool.or_eq_true_iff.mp letter with upper | lower
  · exact ascii_of_le (of_decide_eq_true upper).2 (by decide : 'Z'.toNat < 128)
  · have upTo := (Bool.and_eq_true_iff.mp lower).2
    exact ascii_of_le (of_decide_eq_true upTo) (by decide : 'z'.toNat < 128)

theorem ascii_of_isDigit {c : Char} (digit : c.isDigit) : c.toNat < 128 := by
  have upTo := (Bool.and_eq_true_iff.mp digit).2
  exact ascii_of_le (of_decide_eq_true upTo) (by decide : '9'.toNat < 128)

theorem ascii_of_ofChar? {c : Char} {charClass : CharClass} (classified : ofChar? c = some charClass) :
    c.toNat < 128 := by
  unfold ofChar? at classified
  split at classified
  · rename_i either
    rcases either with letter | rfl | rfl | rfl | rfl | rfl
    · exact ascii_of_isAlpha letter
    all_goals decide
  · split at classified
    · rename_i digit
      exact ascii_of_isDigit digit
    · split at classified
      all_goals first | decide | cases classified

/-- What the table of the ASCII characters says of all those accepted. -/
theorem of_table (holds : Char → CharClass → Bool)
    (table : (List.range 128).all fun code => (ofChar? (Char.ofNat code)).all (holds (Char.ofNat code)))
    {c : Char} {charClass : CharClass} (classified : ofChar? c = some charClass) : holds c charClass := by
  have entry := List.all_eq_true.mp table c.toNat (List.mem_range.mpr (ascii_of_ofChar? classified))
  rw [Char.ofNat_toNat, classified] at entry
  exact entry

theorem isBlank_eq_hasClass {property : CharClass → Bool} {c : Char} (held : hasClass property c) :
    Text.isBlank c = hasClass (· = whitespace) c := by
  obtain ⟨charClass, classified, _⟩ := hasClass_iff.mp held
  have entry := of_table (fun c charClass => Text.isBlank c == decide (charClass = whitespace))
    (by decide +kernel) classified
  rw [hasClass_of_ofChar? classified]
  exact eq_of_beq entry

theorem ofChar?_of_isDigit {c : Char} (digit : c.isDigit) : ofChar? c = some .digit := by
  have table : (List.range 128).all fun code =>
      !(Char.ofNat code).isDigit || ofChar? (Char.ofNat code) == some .digit := by
    decide +kernel
  have entry := List.all_eq_true.mp table c.toNat (List.mem_range.mpr (ascii_of_isDigit digit))
  rw [Char.ofNat_toNat, digit] at entry
  exact eq_of_beq entry

theorem isDigit_of_ofChar? {c : Char} (classified : ofChar? c = some .digit) : c.isDigit :=
  of_table (fun c charClass => charClass != .digit || c.isDigit) (by decide +kernel) classified

def symbol? : CharClass → Option Char
  | letter | digit | whitespace => none
  | escape => some '\\'
  | comma => some ','
  | equal => some '='
  | ampersand => some '&'
  | wildcard => some '*'
  | openParen => some '('
  | closeParen => some ')'
  | openBracket => some '['
  | closeBracket => some ']'
  | openBrace => some '{'
  | closeBrace => some '}'
  | terminator => some ';'

theorem eq_symbol {c symbol : Char} {charClass : CharClass} (classified : ofChar? c = some charClass)
    (only : charClass.symbol? = some symbol) : c = symbol := by
  have entry := of_table (fun c charClass => charClass.symbol?.all (c == ·)) (by decide +kernel) classified
  rw [only] at entry
  exact eq_of_beq entry

theorem eq_of_isGrouping {c d : Char} {charClass : CharClass} (grouping : charClass.isGrouping)
    (first : ofChar? c = some charClass) (second : ofChar? d = some charClass) : c = d := by
  obtain ⟨symbol, only⟩ : ∃ symbol, charClass.symbol? = some symbol := by
    cases charClass <;> cases grouping <;> exact ⟨_, rfl⟩
  rw [eq_symbol first only, eq_symbol second only]

theorem ofChar?_symbol {charClass : CharClass} {symbol : Char} (only : charClass.symbol? = some symbol) :
    ofChar? symbol = some charClass := by
  cases charClass <;> cases only <;> rfl

end CharClass

theorem hasClass_isWordPart_of_isDigit {c : Char} (digit : c.isDigit) : hasClass CharClass.isWordPart c := by
  rw [hasClass_of_ofChar? (CharClass.ofChar?_of_isDigit digit)]
  rfl

theorem hasClass_except_iff {property : CharClass → Bool} {excluded : CharClass} {symbol c : Char}
    (only : excluded.symbol? = some symbol) :
    hasClass (fun charClass => property charClass && charClass != excluded) c ↔
      hasClass property c ∧ c ≠ symbol := by
  simp only [hasClass_iff, Bool.and_eq_true, bne_iff_ne]
  constructor
  · rintro ⟨charClass, classified, held, different⟩
    refine ⟨⟨charClass, classified, held⟩, ?_⟩
    rintro rfl
    rw [CharClass.ofChar?_symbol only] at classified
    exact different (Option.some.inj classified).symm
  · rintro ⟨⟨charClass, classified, held⟩, different⟩
    refine ⟨charClass, classified, held, ?_⟩
    rintro rfl
    exact different (CharClass.eq_symbol classified only)

theorem hasClass_isItemPart_iff {c : Char} :
    hasClass CharClass.isItemPart c ↔ hasClass CharClass.isCollectionPart c ∧ c ≠ ',' :=
  hasClass_except_iff rfl

def collectionStops : List Char := ['(', ')', '[', ']', '{', '}', ';']

theorem hasClass_isCollectionPart_iff {c : Char} :
    hasClass CharClass.isCollectionPart c ↔ (CharClass.ofChar? c).isSome ∧ c ∉ collectionStops := by
  cases classified : CharClass.ofChar? c with
  | none => simp [hasClass, classified]
  | some charClass =>
    have entry := CharClass.of_table
      (fun c charClass => charClass.isCollectionPart == decide (c ∉ collectionStops)) (by decide +kernel) classified
    rw [hasClass_of_ofChar? classified, eq_of_beq entry]
    simp

end TagQuery
