import TagQuery.Tag

namespace TagQuery

structure RecordId where
  path : String
deriving DecidableEq

namespace RecordId

instance : LT RecordId := ⟨fun first second => first.path < second.path⟩

instance : LE RecordId := ⟨fun first second => first.path ≤ second.path⟩

instance : DecidableLT RecordId := fun first second => inferInstanceAs (Decidable (first.path < second.path))

instance : DecidableLE RecordId := fun first second => inferInstanceAs (Decidable (first.path ≤ second.path))

instance : Std.IsLinearOrder RecordId where
  le_refl id := String.le_refl id.path
  le_trans _ _ _ := String.le_trans
  le_antisymm first second below above := by
    cases first
    cases second
    exact congrArg RecordId.mk (String.le_antisymm below above)
  le_total first second := String.le_total first.path second.path

instance : Std.LawfulOrderLT RecordId where
  lt_iff first second := Std.LawfulOrderLT.lt_iff first.path second.path

def describe (id : RecordId) : String := "RecordId(" ++ id.path ++ ")"

end RecordId

structure Record where
  id : RecordId
  tag : Tag
deriving DecidableEq

end TagQuery
