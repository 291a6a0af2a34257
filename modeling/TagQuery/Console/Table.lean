import TagQuery.Console.Width
import TagQuery.Text.Split

namespace TagQuery.Console

/-- The lines of a cell; a line break at its end begins another, empty line. -/
def lines (cell : String) : List (List Char) := Text.split '\n' cell.toList

def cellColumns (cell : String) : Nat := ((lines cell).map lineColumns).foldl max 0

def cellHeight (cell : String) : Nat := (lines cell).length

def rowHeight (row : List String) : Nat := (row.map cellHeight).foldl max 0

def widths (rows : List (List String)) : List Nat :=
  rows.foldl (fun widths row =>
    (List.range (max widths.length row.length)).map fun column =>
      max (widths.getD column 0) (((row[column]?).map cellColumns).getD 0)) []

def padded (width : Nat) (line : List Char) : List Char :=
  ' ' :: line ++ List.replicate (width - lineColumns line) ' ' ++ [' ']

def joined (left between right : Char) (cells : List (List Char)) : List Char :=
  left :: [between].intercalate cells ++ [right]

def rule (left between right : Char) (widths : List Nat) : List Char :=
  joined left between right (widths.map fun width => List.replicate (width + 2) '─')

/-- The lines of a row. Cells start at its top, and what they lack in height is blank. -/
def rowLines (widths : List Nat) (row : List String) : List (List Char) :=
  (List.range (rowHeight row)).map fun index =>
    joined '│' '│' '│' <| List.zipWith
      (fun width cell => padded width (((lines cell)[index]?).getD [])) widths row

def table : List (List String) → String
  | [] => ""
  | header :: rows =>
    let widths := widths (header :: rows)
    let inner := if rows = [] then [] else rule '├' '┼' '┤' widths :: rows.flatMap (rowLines widths)
    let all := rule '╭' '┬' '╮' widths :: rowLines widths header ++ inner ++ [rule '╰' '┴' '╯' widths]
    String.ofList (['\n'].intercalate all)

end TagQuery.Console
