import ContractReview.Display

/-!
What is shown, as lines of text without styles: for a terminal that knows none. Marks are left out,
a title stands above its panel, and the cells of a table stand in columns.
-/

namespace ContractReview.Display

/-- A mark begins with a letter, or closes another. -/
def beginsMark (c : Char) : Bool := c.isLower || c == '/' || c == '#' || c == '@'

/-- A text without its marks. A backslash keeps a bracket from beginning one. -/
def unmarkedFrom : (inMark : Bool) → List Char → List Char
  | _, [] => []
  | true, c :: rest => unmarkedFrom (c != ']') rest
  | false, '\\' :: '[' :: rest => '[' :: unmarkedFrom false rest
  | false, '[' :: c :: rest =>
      if beginsMark c && rest.contains ']' then unmarkedFrom true rest
      else '[' :: unmarkedFrom false (c :: rest)
  | false, c :: rest => c :: unmarkedFrom false rest

def unmarked (text : String) : String := String.ofList (unmarkedFrom false text.toList)

def Piece.bare : Piece → String
  | .markup text => unmarked text
  | .plain text _ => text

/-- A cell filled up to the width of its column. -/
def fill (width : Nat) (toRight : Bool) (text : String) : String :=
  let blank := String.ofList (List.replicate (width - text.length) ' ')
  if toRight then blank ++ text else text ++ blank

def widthOf (cells : List String) : Nat := (cells.map String.length).foldl max 0

/-- The columns of a table side by side. -/
def tableLines (columns : List Column) (rows : List (List String)) : List String :=
  let cells := columns.map (·.header) :: rows
  let widths := (List.range columns.length).map fun i =>
    widthOf (cells.map fun row => row.getD i "")
  cells.map fun row =>
    String.ofList ((Text.joined "  " ((row.zip (widths.zip columns)).map
      fun (text, width, column) => fill width column.toRight text)).toList.reverse.dropWhile
        (· == ' ')).reverse

def Item.lines : Item → List String
  | .panel body title _ _ => [unmarked title, body.bare]
  | .table columns rows => tableLines columns (rows.map fun row => row.map Piece.bare)
  | .line text => [unmarked text]

example : unmarked "[bold]a[/bold] \\[b] [1] [c" = "a [b] [1] [c" := by decide +kernel

end ContractReview.Display
