import TagQuery.Engine.Settings
import TagQuery.Query.Basic
import TagQuery.Record

namespace TagQuery

namespace Record

/-- Whether a record holds what is required of a label. A label that stands for the id is looked up
    in the tag and in the id, and either may satisfy the requirement. -/
def satisfies (settings : Settings) (record : Record) (label : String) (requirement : Requirement) : Bool :=
  requirement.accepts (record.tag.get? label) ||
    (settings.isIdLabel label && requirement.accepts (some record.id.path))

/-- The value that a projection keeps for a label: that of the tag, or else the id if the label
    stands for it. -/
def projectedValue (settings : Settings) (record : Record) (label : String) : Option String :=
  match record.tag.get? label with
  | some value => some value
  | none => if settings.isIdLabel label then some record.id.path else none

/-- The tag with the given labels and no others; no labels at all keep the whole tag. -/
def project (settings : Settings) (labels : List String) (record : Record) : Tag :=
  if labels = [] then record.tag
  else labels.foldl (fun tag label => tag.insert label (record.projectedValue settings label)) ∅

end Record

namespace Target

def accepts (settings : Settings) (target : Target) (record : Record) : Bool :=
  match target with
  | eager labels =>
    labels.isEmpty || labels.entries.any fun (label, requirements) =>
      requirements.toList.any (record.satisfies settings label)
  | strict labels =>
    labels.entries.all fun (label, requirement) => record.satisfies settings label requirement

end Target

end TagQuery
