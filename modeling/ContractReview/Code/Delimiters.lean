import ContractReview.Code.Literals

/-!
Brackets outside comments and literals.
-/

namespace ContractReview.Code

structure Delimiters where
  opening : Char
  closing : Char
deriving DecidableEq, Repr

def braces : Delimiters := ⟨'\x7b', '\x7d'⟩
def parentheses : Delimiters := ⟨'(', ')'⟩

namespace Delimiters

/-- What is wrong when a kind of bracket opens and closes unequally often in plain code. -/
def imbalance? (pair : Delimiters) (code : List Char) : Option String :=
  let opened := code.count pair.opening
  let closed := code.count pair.closing
  if closed < opened then
    some ("Unbalanced '" ++ pair.opening.toString ++ "': " ++ toString (opened - closed) ++
      " more opening than closing")
  else if opened < closed then
    some ("Unbalanced '" ++ pair.closing.toString ++ "': " ++ toString (closed - opened) ++
      " more closing than opening")
  else none

end Delimiters

def delimiterErrors (code : String) (pairs : List Delimiters := [braces, parentheses])
    (mode : Apostrophes := .characters) : List String :=
  let plainCode := plain code.toList mode
  pairs.filterMap (·.imbalance? plainCode)

/-- How many characters of `code` stand before the brace that closes a block entered `depth + 1`
levels deep; all of them when none does. -/
def closingAt (depth : Nat) : List Char → Nat
  | [] => 0
  | c :: rest =>
      if c = '\x7b' then closingAt (depth + 1) rest + 1
      else if c = '\x7d' then
        match depth with
        | 0 => 0
        | outer + 1 => closingAt outer rest + 1
      else closingAt depth rest + 1

/-- The place of the brace that closes the block entered just before `start`, else the length. -/
def blockEnd (code : List Char) (start : Nat) : Nat :=
  if code.length ≤ start then code.length else start + closingAt 0 (code.drop start)

example : blockEnd "\x7b a \x7b b \x7d \x7d c".toList 1 = 10 := by decide

end ContractReview.Code
