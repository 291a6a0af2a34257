import TagQuery.Query.Basic
import TagQuery.Text.Quoted

namespace TagQuery.Subject

def describeAssignment : String × Option String → String
  | (label, some value) => Text.quoted label ++ ": Some(" ++ Text.quoted value ++ ")"
  | (label, none) => Text.quoted label ++ ": None"

def describe : Subject → String
  | projection labels => "Projection([" ++ ", ".intercalate (labels.map Text.quoted) ++ "])"
  | assignment changes =>
    "Assignment(\x7b" ++ ", ".intercalate (changes.entries.map describeAssignment) ++ "\x7d)"
  | property name => "Property(" ++ Text.quoted name ++ ")"

end TagQuery.Subject
