/-!
White space of every script, and trimming.
-/

namespace ContractReview.Text

/-- Spaces, the control characters that separate lines and fields, and the blank characters of
other scripts. -/
def isBlank (c : Char) : Bool :=
  let n := c.toNat
  (9 ≤ n && n ≤ 13) || (28 ≤ n && n ≤ 32) || n == 0x85 || n == 0xA0 || n == 0x1680 ||
    (0x2000 ≤ n && n ≤ 0x200A) || n == 0x2028 || n == 0x2029 || n == 0x202F || n == 0x205F ||
    n == 0x3000

def trimStart (cs : List Char) : List Char := cs.dropWhile isBlank

def trimEnd (cs : List Char) : List Char := (cs.reverse.dropWhile isBlank).reverse

def trim (cs : List Char) : List Char := trimEnd (trimStart cs)

/-- `s` without the white space at either end. -/
def strip (s : String) : String := String.ofList (trim s.toList)

/-- A text of white space only, the empty text included. -/
def allBlank (s : String) : Bool := s.toList.all isBlank

example : trim " \ta b\u00a0\n".toList = "a b".toList := by decide

end ContractReview.Text
