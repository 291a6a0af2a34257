import TagQuery.Token.Basic

namespace TagQuery

@[simp] theorem Text.toList_toLower (text : String) : text.toLower.toList = text.toList.map Char.toLower :=
  String.toList_map

theorem Text.lower_eq_toLower (word : String) : lower word = word.toLower := by
  simp [← String.toList_inj, lower]

inductive Keyword where
  | select
  | update
  | delete
  | showProperty
  | whereTarget
  | limit
deriving DecidableEq

namespace Keyword

def all : List Keyword := [select, update, delete, showProperty, whereTarget, limit]

def name : Keyword → String
  | select => "select"
  | update => "update"
  | delete => "delete"
  | showProperty => "show"
  | whereTarget => "where"
  | limit => "limit"

/-- A word spells a keyword in any mixture of upper and lower case. -/
def Spells (keyword : Keyword) (word : String) : Prop :=
  word.toList.map Char.toLower = keyword.name.toList

instance (keyword : Keyword) (word : String) : Decidable (keyword.Spells word) :=
  inferInstanceAs (Decidable (_ = _))

theorem spells_iff {keyword : Keyword} {word : String} : keyword.Spells word ↔ Text.lower word = keyword.name := by
  rw [Spells, Text.lower, ← String.toList_inj, String.toList_ofList]

theorem spells_iff_toLower {keyword : Keyword} {word : String} :
    keyword.Spells word ↔ word.toLower = keyword.name := by
  rw [spells_iff, Text.lower_eq_toLower]

theorem Spells.recased {keyword : Keyword} {word other : String} (spelled : keyword.Spells word)
    (folded : other.toLower = word.toLower) : keyword.Spells other := by
  rw [spells_iff_toLower] at spelled ⊢
  rw [folded, spelled]

def kind : Keyword → WordKind
  | select | update | delete | showProperty => .command
  | whereTarget | limit => .condition

def command? : Keyword → Option Command
  | select => some .select
  | update => some .update
  | delete => some .delete
  | showProperty => some .showProperty
  | whereTarget | limit => none

end Keyword

namespace WordKind

theorem ofWord_congr {word other : String} (folded : other.toLower = word.toLower) :
    ofWord other = ofWord word := by
  rw [ofWord, ofWord, Text.lower_eq_toLower, Text.lower_eq_toLower, folded]

theorem ofWord_of_spells {keyword : Keyword} {word : String} (spelled : keyword.Spells word) :
    ofWord word = keyword.kind := by
  rw [ofWord, Keyword.spells_iff.mp spelled]
  cases keyword <;> rfl

def Fits (word : String) : WordKind → Prop
  | command => word.toLower ∈ ["select", "update", "delete", "show"]
  | condition => word.toLower ∈ ["where", "limit"]
  | generic => word.toLower ∉ ["select", "update", "delete", "show", "where", "limit"]

theorem fits_ofWord (word : String) : (ofWord word).Fits word := by
  unfold ofWord
  split <;> simp_all [Fits, Text.lower_eq_toLower]

theorem ofWord_eq_generic_iff {word : String} : ofWord word = generic ↔ ∀ keyword : Keyword, ¬ keyword.Spells word := by
  constructor
  · intro none keyword spelled
    rw [ofWord_of_spells spelled] at none
    cases keyword <;> cases none
  · intro free
    have known : word.toLower ∉ Keyword.all.map Keyword.name := by
      intro listed
      obtain ⟨keyword, -, same⟩ := List.mem_map.mp listed
      exact free keyword (Keyword.spells_iff_toLower.mpr same.symm)
    have fits := fits_ofWord word
    cases kind : ofWord word with
    | generic => rfl
    | command =>
      rw [kind] at fits
      exact absurd (List.mem_append_left ["where", "limit"] fits) known
    | condition =>
      rw [kind] at fits
      exact absurd (List.mem_append_right ["select", "update", "delete", "show"] fits) known

end WordKind

namespace Command

theorem ofWord?_congr {word other : String} (folded : other.toLower = word.toLower) :
    ofWord? other = ofWord? word := by
  rw [ofWord?, ofWord?, Text.lower_eq_toLower, Text.lower_eq_toLower, folded]

theorem ofWord?_of_spells {keyword : Keyword} {word : String} (spelled : keyword.Spells word) :
    ofWord? word = keyword.command? := by
  rw [ofWord?, Keyword.spells_iff.mp spelled]
  cases keyword <;> rfl

theorem ofWord?_eq_some_iff {word : String} {command : Command} :
    ofWord? word = some command ↔ ∃ keyword : Keyword, keyword.Spells word ∧ keyword.command? = some command := by
  constructor
  · intro found
    simp only [Keyword.spells_iff]
    unfold ofWord? at found
    split at found <;> cases found
    · exact ⟨.select, ‹_›, rfl⟩
    · exact ⟨.update, ‹_›, rfl⟩
    · exact ⟨.delete, ‹_›, rfl⟩
    · exact ⟨.showProperty, ‹_›, rfl⟩
  · rintro ⟨keyword, spelled, names⟩
    rw [ofWord?_of_spells spelled, names]

end Command

/-- The words that the lexer takes for commands are those that the parser reads as commands. -/
theorem WordKind.ofWord_eq_command_iff {word : String} : ofWord word = command ↔ (Command.ofWord? word).isSome := by
  unfold ofWord Command.ofWord?
  split <;> simp_all

theorem WordKind.ofWord_eq_condition_iff {word : String} :
    ofWord word = condition ↔ Keyword.whereTarget.Spells word ∨ Keyword.limit.Spells word := by
  rw [Keyword.spells_iff, Keyword.spells_iff]
  unfold ofWord
  split <;> simp_all [Keyword.name]

end TagQuery
