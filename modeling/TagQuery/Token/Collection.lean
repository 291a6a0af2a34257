import TagQuery.CharClass.Basic
import TagQuery.Text.Blank

namespace TagQuery.Collection

/-- Reads items up to the closer and says how many characters they take with it; without the closer there is no
    collection. White space and commas are skipped, and an item is trimmed before it counts. -/
def read (closer : CharClass) : List Char → Option (List String × Nat)
  | [] => none
  | c :: rest =>
    match CharClass.ofChar? c with
    | none => none
    | some charClass =>
      if charClass = .whitespace then (read closer rest).map fun (items, taken) => (items, taken + 1)
      else if charClass = closer then some ([], 1)
      else if charClass = .comma then (read closer rest).map fun (items, taken) => (items, taken + 1)
      else if charClass = .terminator then none
      else if charClass.isGrouping then none
      else
        let run := (c :: rest).takeWhile (hasClass CharClass.isItemPart)
        let item := Text.trim run
        (read closer (rest.drop (run.length - 1))).map fun (items, taken) =>
          (if item = [] then items else String.ofList item :: items, run.length + taken)
termination_by input => input.length

end TagQuery.Collection
