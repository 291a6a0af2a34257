namespace TagQuery

def nullSentinel : String := "\\Null"

inductive Requirement where
  | absent
  | text (value : String)
deriving DecidableEq

namespace Requirement

def Below : Requirement → Requirement → Prop
  | absent, text _ => True
  | text first, text second => first < second
  | _, absent => False

instance : LT Requirement := ⟨Below⟩

instance : LE Requirement := ⟨fun first second => ¬ second < first⟩

instance : DecidableLT Requirement
  | absent, text _ => isTrue trivial
  | text first, text second => inferInstanceAs (Decidable (first < second))
  | absent, absent | text _, absent => isFalse id

instance : DecidableLE Requirement := fun first second => inferInstanceAs (Decidable (¬ second < first))

theorem below_trans {first second third : Requirement} (below : first < second)
    (above : second < third) : first < third := by
  cases first <;> cases second <;> cases third <;> first
    | exact trivial
    | exact absurd below id
    | exact absurd above id
    | exact String.lt_trans below above

theorem below_asymm {first second : Requirement} (below : first < second) : ¬ second < first := by
  cases first <;> cases second <;> first
    | exact id
    | exact absurd below id
    | exact String.lt_asymm below

theorem below_trichotomy (first second : Requirement) :
    first < second ∨ first = second ∨ second < first := by
  cases first <;> cases second
  · exact .inr (.inl rfl)
  · exact .inl trivial
  · exact .inr (.inr trivial)
  · rename_i first second
    exact (Std.lt_trichotomy first second).imp_right (.imp_left (congrArg text))

instance : Std.IsLinearOrder Requirement where
  le_refl _ less := below_asymm less less
  le_trans first second third below above less := by
    rcases below_trichotomy first second with ascending | same | descending
    · exact above (below_trans less ascending)
    · exact above (same ▸ less)
    · exact below descending
  le_antisymm first second below above := by
    rcases below_trichotomy first second with ascending | same | descending
    · exact absurd ascending above
    · exact same
    · exact absurd descending below
  le_total first second := by
    rcases below_trichotomy first second with ascending | same | descending
    · exact .inl (below_asymm ascending)
    · exact .inl fun less => below_asymm (same ▸ less) (same ▸ less)
    · exact .inr (below_asymm descending)

instance : Std.LawfulOrderLT Requirement where
  lt_iff _ _ :=
    ⟨fun less => ⟨below_asymm less, fun above => above less⟩, fun both => Classical.not_not.mp both.2⟩

/-- A label held without a value counts as absent, like a missing one. -/
def accepts : Requirement → Option String → Bool
  | absent, none => true
  | text expected, some actual => expected == actual
  | _, _ => false

def display : Requirement → String
  | absent => nullSentinel
  | text value => value

def ofText (value : String) : Requirement := if value = nullSentinel then absent else text value

end Requirement

end TagQuery
