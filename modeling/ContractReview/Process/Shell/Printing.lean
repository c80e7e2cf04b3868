import ContractReview.Process.Shell.Arithmetic

/-!
The programs of the host that only print: `echo`, `printf` and `seq`. Each gives what it prints for
its arguments.
-/

namespace ContractReview.Shell.Printing

open Arithmetic

/-- Reads an octal number of a limited count of digits. -/
def octal : (limit value : Nat) → Raw → Nat × Raw
  | limit + 1, value, c :: rest =>
      if '0' ≤ c ∧ c ≤ '7' then octal limit (value * 8 + (c.toNat - 48)) rest
      else (value, c :: rest)
  | _, value, rest => (value, rest)

def letters : List (Char × Char) :=
  [('a', '\x07'), ('b', '\x08'), ('f', '\x0c'), ('n', '\n'), ('r', '\r'), ('t', '\t'),
    ('v', '\x0b'), ('\\', '\\')]

/-- How numbers are written behind a backslash: as such, or behind a zero. -/
inductive Octal
  | bare
  | zeroed
deriving DecidableEq

/-- What a backslash begins, and what follows it. -/
def escape (style : Octal) : Raw → Raw × Raw
  | [] => (['\\'], [])
  | c :: rest =>
      if style = .zeroed && c = '0' then
        let (n, rest) := octal 3 0 rest
        ([Char.ofNat (n % 256)], rest)
      else if style = .bare && '0' ≤ c && c ≤ '7' then
        let (n, rest) := octal 3 0 (c :: rest)
        ([Char.ofNat (n % 256)], rest)
      else
        match letters.lookup c with
        | some octet => ([octet], rest)
        | none => (['\\'], c :: rest)

/-- A text with its backslashes read, and whether it says to stop. -/
def unescapedFrom : (fuel : Nat) → Raw → Raw × Bool
  | 0, _ | _ + 1, [] => ([], false)
  | _ + 1, '\\' :: 'c' :: _ => ([], true)
  | fuel + 1, '\\' :: rest =>
      let (octets, rest) := escape .zeroed rest
      let (text, stop) := unescapedFrom fuel rest
      (octets ++ text, stop)
  | fuel + 1, c :: rest =>
      let (text, stop) := unescapedFrom fuel rest
      (c :: text, stop)

def unescaped (text : Raw) : Raw × Bool := unescapedFrom (text.length + 1) text

def spaced (words : List Raw) : Raw := (words.intersperse [' ']).flatten

/-- What `echo` prints; with `escapes` it reads backslashes. -/
def echo (escapes : Bool) (words : List Raw) : Raw :=
  let (bare, words) :=
    match words with
    | ['-', 'n'] :: rest => (true, rest)
    | words => (false, words)
  let (text, stop) := if escapes then unescaped (spaced words) else (spaced words, false)
  if bare || stop then text else text ++ ['\n']

/-! ## Formats -/

structure Layout where
  left : Bool := false
  zeros : Bool := false
  plus : Bool := false
  width : Nat := 0
  precision : Option Nat := none

def pad (layout : Layout) (text : Raw) : Raw :=
  let missing := layout.width - text.length
  if layout.left then text ++ List.replicate missing ' '
  else if layout.zeros then
    match text with
    | '-' :: digits => '-' :: (List.replicate missing '0' ++ digits)
    | text => List.replicate missing '0' ++ text
  else List.replicate missing ' ' ++ text

def digitsIn (base : Nat) (n : Nat) (layout : Layout) : Raw :=
  let digits := Nat.toDigits base n
  List.replicate (layout.precision.getD 0 - digits.length) '0' ++ digits

/-- One argument in its place, and whether printing stops there. -/
def conversion (kind : Char) (layout : Layout) (argument : Option Raw) : Raw × Bool :=
  let text := argument.getD []
  let n : Int :=
    match text with
    | quote :: c :: _ => if quote = '\'' ∨ quote = '"' then c.toNat else (signed? text).getD 0
    | text => (signed? text).getD 0
  let counted (base : Nat) : Raw :=
    pad layout (digitsIn base (n % Nat.pow 2 64).toNat layout)
  match kind with
  | 's' => (pad layout (match layout.precision with
      | some k => text.take k
      | none => text), false)
  | 'c' => (pad layout (text.take 1), false)
  | 'b' =>
      let (text, stop) := unescaped text
      (pad layout text, stop)
  | 'd' | 'i' =>
      let mark : Raw := if n < 0 then ['-'] else if layout.plus then ['+'] else []
      (pad layout (mark ++ digitsIn 10 n.natAbs layout), false)
  | 'u' => (counted 10, false)
  | 'o' => (counted 8, false)
  | 'x' => (counted 16, false)
  | 'X' => ((counted 16).map Char.toUpper, false)
  | _ => ([], false)

def flagsFrom (layout : Layout) : Raw → Layout × Raw
  | '-' :: rest => flagsFrom { layout with left := true } rest
  | '0' :: rest => flagsFrom { layout with zeros := true } rest
  | '+' :: rest => flagsFrom { layout with plus := true } rest
  | '#' :: rest | ' ' :: rest => flagsFrom layout rest
  | rest => (layout, rest)

/-- The layout of a conversion, and what follows it. -/
def layoutFrom (text : Raw) : Layout × Raw :=
  let (layout, rest) := flagsFrom {} text
  let digits := rest.takeWhile Char.isDigit
  let layout := { layout with width := inBase 10 digits }
  match rest.drop digits.length with
  | '.' :: rest =>
      let digits := rest.takeWhile Char.isDigit
      ({ layout with precision := some (inBase 10 digits) }, rest.drop digits.length)
  | rest => (layout, rest)

/-- Prints a format once: the text, the arguments left, and whether printing stops. -/
def formatOnce : (fuel : Nat) → Raw → List Raw → Raw × List Raw × Bool
  | 0, _, arguments | _ + 1, [], arguments => ([], arguments, false)
  | fuel + 1, '%' :: '%' :: rest, arguments =>
      let (text, left, stop) := formatOnce fuel rest arguments
      ('%' :: text, left, stop)
  | fuel + 1, '%' :: rest, arguments =>
      let (layout, rest) := layoutFrom rest
      match rest with
      | [] => ([], arguments, true)
      | kind :: rest =>
          let (shown, stop) := conversion kind layout arguments.head?
          if stop then (shown, arguments.tail, true)
          else
            let (text, left, stop) := formatOnce fuel rest arguments.tail
            (shown ++ text, left, stop)
  | fuel + 1, '\\' :: rest, arguments =>
      let (octets, rest) := escape .bare rest
      let (text, left, stop) := formatOnce fuel rest arguments
      (octets ++ text, left, stop)
  | fuel + 1, c :: rest, arguments =>
      let (text, left, stop) := formatOnce fuel rest arguments
      (c :: text, left, stop)

/-- A format is printed again while that uses up arguments. -/
def formatAll (format : Raw) : (fuel : Nat) → List Raw → Raw
  | 0, _ => []
  | fuel + 1, arguments =>
      let (text, left, stop) := formatOnce (format.length + 1) format arguments
      if stop || left.isEmpty || left.length = arguments.length then text
      else text ++ formatAll format fuel left

def printf (format : Raw) (arguments : List Raw) : Raw :=
  formatAll format (arguments.length + 1) arguments

/-- The numbers from one to another. -/
def countFrom (step last : Int) : (fuel : Nat) → Int → Raw
  | 0, _ => []
  | fuel + 1, n =>
      if (0 < step ∧ last < n) ∨ (step < 0 ∧ n < last) then []
      else (toString n).toList ++ '\n' :: countFrom step last fuel (n + step)

/-- What `seq` prints; none where it is not called with whole numbers. -/
def seq? (arguments : List Raw) : Option Raw :=
  let count (first step last : Int) : Option Raw :=
    if step = 0 then none
    else some (countFrom step last (((last - first).natAbs / step.natAbs) + 1) first)
  match arguments.mapM signed? with
  | some [last] => count 1 1 last
  | some [first, last] => count first 1 last
  | some [first, step, last] => count first step last
  | _ => none

example : printf "\\045\\0611%s-%03d|".toList ["x".toList, "7".toList] = "%11x-007|".toList := by
  decide +kernel
example : echo true ["a\\0101".toList, "b\\c".toList, "c".toList] = "aA b".toList := by
  decide +kernel

end ContractReview.Shell.Printing
