import ContractReview.Text.Blank

/-!
Lines of a text. Beside the newline, the carriage return and their pair, a line ends at every other
character that breaks a line on paper or separates records.
-/

namespace ContractReview.Text

def isLineBreak (c : Char) : Bool :=
  let n := c.toNat
  (10 ≤ n && n ≤ 13) || (28 ≤ n && n ≤ 30) || n == 0x85 || n == 0x2028 || n == 0x2029

/-- The lines of `cs`, of which `line` (reversed) has been read; a final break opens no line. -/
def linesFrom (line : List Char) : List Char → List (List Char)
  | [] => if line.isEmpty then [] else [line.reverse]
  | '\r' :: '\n' :: rest => line.reverse :: linesFrom [] rest
  | c :: rest =>
      if isLineBreak c then line.reverse :: linesFrom [] rest else linesFrom (c :: line) rest

def linesOf (cs : List Char) : List (List Char) := linesFrom [] cs

def lines (s : String) : List String := (linesOf s.toList).map String.ofList

/-- Lines that hold more than white space. -/
def countFilledLines (s : String) : Nat :=
  (linesOf s.toList).countP fun line => !line.all isBlank

/-- The sum of some counts. -/
def total (counts : List Nat) : Nat := counts.foldl (· + ·) 0

def lastFilledLine? (s : String) : Option String :=
  ((lines s).filter fun line => !allBlank line).getLast?

example : linesOf "a\r\nb\rc\n".toList = [['a'], ['b'], ['c']] := by decide
example : linesOf "\n".toList = [[]] ∧ linesOf [] = [] := by decide

end ContractReview.Text
