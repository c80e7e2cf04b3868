/-!
Scripts, which are the tools that the host can be given: words with what is to be put into them,
redirections, and commands. Texts are octets, each written as the character of the same number.
-/

namespace ContractReview.Shell

abbrev Raw := List Char

/-- A part of a word. What stands within braces, double parentheses or a substitution is kept as it
is written, and read when the word is used. -/
inductive Part
  | chars (text : Raw)
  | value (inner : Raw)
  | sum (inner : Raw)
  | outcome (script : Raw)
deriving DecidableEq, Repr

structure Piece where
  part : Part
  quoted : Bool
deriving DecidableEq, Repr

abbrev Word := List Piece

inductive Direction
  | read
  | write
  | append
  | join
deriving DecidableEq, Repr

structure Redirect where
  channel : Nat
  direction : Direction
  goal : Word
deriving DecidableEq, Repr

inductive Script
  | nothing
  | simple (settings : List (Raw × Word)) (words : List Word) (redirects : List Redirect)
  | inTurn (first second : Script)
  | both (first second : Script)
  | either (first second : Script)
  | inverted (body : Script)
  | piped (first second : Script)
  | branch (condition yes no : Script)
  | loop (sense : Bool) (condition body : Script)
  | each (name : Raw) (words : Option (List Word)) (body : Script)
  | group (body : Script) (redirects : List Redirect)
  | apart (body : Script) (redirects : List Redirect)
  | beside (body : Script)
deriving DecidableEq, Repr

def isNameStart (c : Char) : Bool := c.isAlpha || c == '_'

def isNameChar (c : Char) : Bool := c.isAlphanum || c == '_'

def isName : Raw → Bool
  | [] => false
  | c :: rest => isNameStart c && rest.all isNameChar

end ContractReview.Shell
