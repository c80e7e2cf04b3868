import ContractReview.Text.Search

/-!
Source code without its comments and literals. Each is replaced by the newlines in it, so every line
keeps its number.
-/

namespace ContractReview.Code

/-- How an apostrophe is read: before a character literal (`'a'`, but not a lone `'a`), or before a
text that ends on its line. -/
inductive Apostrophes
  | characters | texts
deriving DecidableEq, Repr

def afterBlockComment? (cs : List Char) : Option (List Char) := (Text.cut? ['*', '/'] cs).map (·.2)

/-- The text behind a string, read from behind its opening quotation mark. A backslash takes the
character behind it, which must not end the line. -/
def afterDoubleQuoted? : List Char → Option (List Char)
  | [] => none
  | '"' :: rest => some rest
  | '\\' :: '\n' :: _ => none
  | '\\' :: _ :: rest => afterDoubleQuoted? rest
  | '\\' :: [] => none
  | _ :: rest => afterDoubleQuoted? rest

def afterSingleQuoted? : List Char → Option (List Char)
  | [] => none
  | '\'' :: rest => some rest
  | '\\' :: '\n' :: _ => none
  | '\\' :: _ :: rest => afterSingleQuoted? rest
  | '\\' :: [] => none
  | '\n' :: _ => none
  | _ :: rest => afterSingleQuoted? rest

def isHex (c : Char) : Bool :=
  let n := c.toNat
  (48 ≤ n && n ≤ 57) || (97 ≤ n && n ≤ 102) || (65 ≤ n && n ≤ 70)

/-- Behind a code point in braces and the closing apostrophe. -/
def afterCodePoint? (cs : List Char) : Option (List Char) :=
  match cs with
  | 'u' :: '\x7b' :: digit :: rest =>
      if isHex digit then
        match rest.dropWhile isHex with
        | '\x7d' :: '\'' :: rest => some rest
        | _ => none
      else none
  | 'x' :: a :: b :: '\'' :: rest => if isHex a && isHex b then some rest else none
  | _ => none

/-- One character or escape and the closing apostrophe. -/
def afterCharacter? : List Char → Option (List Char)
  | '\\' :: rest =>
      match afterCodePoint? rest with
      | some rest => some rest
      | none =>
          match rest with
          | c :: '\'' :: rest => if c = '\n' then none else some rest
          | _ => none
  | c :: '\'' :: rest => if c = '\'' ∨ c = '\n' then none else some rest
  | _ => none

/-- The text behind the comment or literal that begins here. -/
def afterLiteral? (mode : Apostrophes) : List Char → Option (List Char)
  | '/' :: '/' :: rest => some (rest.dropWhile (· ≠ '\n'))
  | '/' :: '*' :: rest => afterBlockComment? rest
  | '"' :: rest => afterDoubleQuoted? rest
  | '\'' :: rest =>
      match mode with
      | .characters => afterCharacter? rest
      | .texts => afterSingleQuoted? rest
  | _ => none

/-- The code from here on, where the next `inside` characters belong to a comment or literal. -/
def plainFrom (mode : Apostrophes) (inside : Nat) : List Char → List Char
  | [] => []
  | c :: rest =>
      match inside with
      | more + 1 =>
          if c = '\n' then c :: plainFrom mode more rest else plainFrom mode more rest
      | 0 =>
          match afterLiteral? mode (c :: rest) with
          | none => c :: plainFrom mode 0 rest
          | some behind => plainFrom mode (rest.length - behind.length) rest

/-- The code without comments and literals. -/
def plain (code : List Char) (mode : Apostrophes := .characters) : List Char :=
  plainFrom mode 0 code

def plainText (code : String) (mode : Apostrophes := .characters) : String :=
  String.ofList (plain code.toList mode)

example : plain "a\"b\n\"c//d\n'e' 'f".toList = "a\nc\n 'f".toList := by decide

end ContractReview.Code
