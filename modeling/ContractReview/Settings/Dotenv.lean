import ContractReview.Text.Blank

/-!
Files of variables: one name a line, with a value that may be quoted and may refer to other
variables. A line that is none of this is passed over.
-/

namespace ContractReview.Dotenv

open Text

/-- A variable; one without an equals sign has no value. -/
abbrev Binding := String × Option String

def isLineEnd (c : Char) : Bool := c == '\n' || c == '\r'

/-- White space within a line. -/
def isSpace (c : Char) : Bool := isBlank c && !isLineEnd c

def dropSpaces (cs : List Char) : List Char := cs.dropWhile isSpace

def dropLine (cs : List Char) : List Char := cs.dropWhile fun c => !isLineEnd c

/-- A text up to the quote that closes it, and what follows. A backslash keeps the quote behind it
from closing, if another quote follows. -/
def quotedBody (quote : Char) : List Char → Option (List Char × List Char)
  | [] => none
  | '\\' :: c :: rest =>
      if c = quote then
        match quotedBody quote rest with
        | some (body, after) => some ('\\' :: c :: body, after)
        | none => some (['\\'], rest)
      else (quotedBody quote (c :: rest)).map fun (body, after) => ('\\' :: body, after)
  | c :: rest =>
      if c = quote then some ([], rest)
      else (quotedBody quote rest).map fun (body, after) => (c :: body, after)

/-- What a backslash and a letter stand for between apostrophes, and between quotation marks. -/
def singleEscapes : List (Char × Char) := [('\\', '\\'), ('\'', '\'')]

def doubleEscapes : List (Char × Char) :=
  singleEscapes ++ [('"', '"'), ('a', '\x07'), ('b', '\x08'), ('f', '\x0c'), ('n', '\n'),
    ('r', '\r'), ('t', '\t'), ('v', '\x0b')]

def unescaped (escapes : List (Char × Char)) : List Char → List Char
  | '\\' :: c :: rest =>
      match escapes.lookup c with
      | some d => d :: unescaped escapes rest
      | none => '\\' :: unescaped escapes (c :: rest)
  | c :: rest => c :: unescaped escapes rest
  | [] => []

/-- A value without the comment that white space parts from it. -/
def uncommented : List Char → List Char
  | [] => []
  | c :: rest =>
      if isBlank c && ((c :: rest).dropWhile isBlank).head? = some '#' then []
      else c :: uncommented rest

/-- A name and what follows it; a comment has none. Nothing that could be a name is a fault, told
with the place where it stands. -/
def name? (cs : List Char) : Except (List Char) (Option (List Char) × List Char) :=
  match cs with
  | '#' :: _ => .ok (none, cs)
  | '\'' :: rest =>
      let name := rest.takeWhile (· ≠ '\'')
      match rest.dropWhile (· ≠ '\'') with
      | _ :: after => if name.isEmpty then .error cs else .ok (some name, after)
      | [] => .error cs
  | cs =>
      let isPart (c : Char) : Bool := !(c == '=' || c == '#' || isBlank c)
      let name := cs.takeWhile isPart
      if name.isEmpty then .error cs else .ok (some name, cs.dropWhile isPart)

/-- A value and what follows it. -/
def value? (cs : List Char) : Except (List Char) (List Char × List Char) :=
  match cs with
  | '\'' :: rest =>
      match quotedBody '\'' rest with
      | some (body, after) => .ok (unescaped singleEscapes body, after)
      | none => .error cs
  | '"' :: rest =>
      match quotedBody '"' rest with
      | some (body, after) => .ok (unescaped doubleEscapes body, after)
      | none => .error cs
  | cs => .ok (trimEnd (uncommented (cs.takeWhile fun c => !isLineEnd c)), dropLine cs)

/-- What follows the export mark, if there is one. -/
def afterExport (cs : List Char) : List Char :=
  if "export".toList.isPrefixOf cs && (cs.drop 6).head?.any isSpace then dropSpaces (cs.drop 6)
  else cs

/-- What follows a comment and the end of the line. -/
def lineEnd (cs : List Char) : Except (List Char) (List Char) :=
  let rest := dropSpaces cs
  let rest := if rest.head? = some '#' then dropLine rest else rest
  match rest with
  | [] => .ok []
  | '\r' :: '\n' :: after => .ok after
  | c :: after => if isLineEnd c then .ok after else .error rest

/-- The binding at the start of the text, if there is one, and what follows it. -/
def binding? (cs : List Char) : Except (List Char) (Option Binding × List Char) := do
  let (name, rest) ← name? (afterExport cs)
  let rest := dropSpaces rest
  let (value, rest) ←
    match rest with
    | '=' :: rest => do
        let (value, rest) ← value? (dropSpaces rest)
        pure (some (String.ofList value), rest)
    | rest => pure (none, rest)
  let rest ← lineEnd rest
  return (name.map fun name => (String.ofList name, value), rest)

/-- All bindings in order. -/
def bindingsFrom : (fuel : Nat) → List Char → List Binding
  | 0, _ => []
  | fuel + 1, cs =>
      match trimStart cs with
      | [] => []
      | cs =>
          match binding? cs with
          | .ok (some found, rest) => found :: bindingsFrom fuel rest
          | .ok (none, rest) => bindingsFrom fuel rest
          | .error rest => bindingsFrom fuel ((dropLine rest).drop 1)

def bindings (text : String) : List Binding := bindingsFrom (text.length + 1) text.toList

/-! ### References -/

abbrev Variables := List (String × Option String)

/-- A reference at the start of a text: the name, the value for want of one, and what follows. -/
def reference? : List Char → Option (String × String × List Char)
  | '$' :: '\x7b' :: rest =>
      let name := rest.takeWhile fun c => c ≠ '\x7d' ∧ c ≠ ':'
      match rest.drop name.length with
      | '\x7d' :: after => some (String.ofList name, "", after)
      | ':' :: '-' :: other =>
          let default := other.takeWhile (· ≠ '\x7d')
          match other.drop default.length with
          | _ :: after => some (String.ofList name, String.ofList default, after)
          | [] => none
      | _ => none
  | _ => none

/-- A value with its references replaced. -/
def resolved (lookup : String → Option (Option String)) : (fuel : Nat) → List Char → List Char
  | 0, cs => cs
  | _, [] => []
  | fuel + 1, c :: rest =>
      match reference? (c :: rest) with
      | some (name, default, after) =>
          ((lookup name).getD (some default)).getD "" |>.toList |> (· ++ resolved lookup fuel after)
      | none => c :: resolved lookup fuel rest

def set (name : String) (value : Option String) : Variables → Variables
  | [] => [(name, value)]
  | (n, v) :: rest => if n = name then (n, value) :: rest else (n, v) :: set name value rest

/-- The variables that a file sets, references resolved: those of the environment count first, then
those that the file has set before. -/
def assigned (environment : List (String × String)) (text : String) : Variables :=
  (bindings text).foldl (fun found (name, value) =>
    let lookup (n : String) : Option (Option String) :=
      match environment.lookup n with
      | some v => some (some v)
      | none => found.lookup n
    set name (value.map fun v => String.ofList (resolved lookup (v.length + 1) v.toList)) found) []

/-- An environment with the variables of a file, which change none that is there. -/
def extend (environment : List (String × String)) (text : String) : List (String × String) :=
  environment ++ (assigned environment text).filterMap fun (name, value) =>
    if (environment.lookup name).isSome then none else value.map fun v => (name, v)

example : bindings "export A = 'x' # c\nB=1 #2\n?x y\nC" =
    [("A", some "x"), ("B", some "1"), ("C", none)] := by decide +kernel
example : extend [("H", "/h")] "A=$\x7bH\x7d/a\nH=/x\nB=$\x7bA:-d\x7d$\x7bZ:-d\x7d" =
    [("H", "/h"), ("A", "/h/a"), ("B", "/h/ad")] := by decide +kernel

end ContractReview.Dotenv
