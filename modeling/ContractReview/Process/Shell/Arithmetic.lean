import ContractReview.Process.Shell.Script

/-!
Sums in the scripts of the host: whole numbers of 64 bits, with the operators of C in their ranks.
-/

namespace ContractReview.Shell.Arithmetic

inductive Item
  | value (n : Int)
  | sign (text : String)
deriving DecidableEq, Repr

/-- The operators of each rank, the weakest first. -/
def ranks : List (List String) :=
  [["||"], ["&&"], ["|"], ["^"], ["&"], ["==", "!="], ["<=", ">=", "<", ">"], ["<<", ">>"],
    ["+", "-"], ["*", "/", "%"]]

/-- Longer signs are tried first. -/
def signs : List String :=
  ["||", "&&", "==", "!=", "<=", ">=", "<<", ">>", "|", "^", "&", "<", ">", "+", "-", "*", "/", "%",
    "(", ")", "!", "~"]

def wrap (n : Int) : Int := Int.bmod n (Nat.pow 2 64)

def digit (c : Char) : Nat :=
  if c.isDigit then c.toNat - 48 else (c.toLower.toNat - 87)

def inBase (base : Nat) (digits : Raw) : Nat := digits.foldl (fun n c => n * base + digit c) 0

/-- A whole number: hexadecimal after `0x`, octal after a zero, else decimal. -/
def number? : Raw → Option Nat
  | '0' :: x :: digits =>
      if x = 'x' ∨ x = 'X' then
        let isHex (c : Char) : Bool := c.isDigit || ('a' ≤ c.toLower && c.toLower ≤ 'f')
        if !digits.isEmpty && digits.all isHex then some (inBase 16 digits) else none
      else if (x :: digits).all (fun c => '0' ≤ c && c ≤ '7') then some (inBase 8 (x :: digits))
      else none
  | [] => none
  | digits => if digits.all Char.isDigit then some (inBase 10 digits) else none

/-- A number with a sign in front, and white space around. -/
def signed? (text : Raw) : Option Int :=
  let text := (text.dropWhile Char.isWhitespace).reverse.dropWhile Char.isWhitespace |>.reverse
  match text with
  | '-' :: digits => (number? digits).map fun n => -n
  | '+' :: digits => (number? digits).map fun n => n
  | digits => (number? digits).map fun n => n

/-- The items of a sum; `value` gives the texts of variables, and an unset one counts as zero. -/
def items (value : Raw → Option Raw) : (fuel : Nat) → Raw → Option (List Item)
  | 0, _ | _ + 1, [] => some []
  | fuel + 1, c :: rest =>
      if c.isWhitespace then items value fuel rest
      else if c.isDigit then
        let digits := (c :: rest).takeWhile isNameChar
        match number? digits with
        | some n => (items value fuel ((c :: rest).drop digits.length)).map (.value n :: ·)
        | none => none
      else if isNameStart c then
        let name := (c :: rest).takeWhile isNameChar
        match signed? ((value name).getD []) with
        | some n => (items value fuel ((c :: rest).drop name.length)).map (.value n :: ·)
        | none =>
            if ((value name).getD []).isEmpty then
              (items value fuel ((c :: rest).drop name.length)).map (.value 0 :: ·)
            else none
      else
        match signs.find? fun s => s.toList.isPrefixOf (c :: rest) with
        | some s => (items value fuel ((c :: rest).drop s.length)).map (.sign s :: ·)
        | none => none

def truth (b : Bool) : Int := if b then 1 else 0

/-- What an operator makes of two numbers; none for a division by zero. -/
def apply (operator : String) (a b : Int) : Option Int :=
  match operator with
  | "||" => some (truth (a ≠ 0 || b ≠ 0))
  | "&&" => some (truth (a ≠ 0 && b ≠ 0))
  | "|" => some (Int.ofNat (Int.toNat (a % Nat.pow 2 64) ||| Int.toNat (b % Nat.pow 2 64)))
  | "^" => some (Int.ofNat (Int.toNat (a % Nat.pow 2 64) ^^^ Int.toNat (b % Nat.pow 2 64)))
  | "&" => some (Int.ofNat (Int.toNat (a % Nat.pow 2 64) &&& Int.toNat (b % Nat.pow 2 64)))
  | "==" => some (truth (a = b))
  | "!=" => some (truth (a ≠ b))
  | "<=" => some (truth (a ≤ b))
  | ">=" => some (truth (a ≥ b))
  | "<" => some (truth (a < b))
  | ">" => some (truth (a > b))
  | "<<" => some (a * Nat.pow 2 (b % 64).toNat)
  | ">>" => some (Int.fdiv a (Nat.pow 2 (b % 64).toNat))
  | "+" => some (a + b)
  | "-" => some (a - b)
  | "*" => some (a * b)
  | "/" => if b = 0 then none else some (Int.tdiv a b)
  | "%" => if b = 0 then none else some (Int.tmod a b)
  | _ => none

mutual

/-- The value of the longest sum of the ranks given, and what follows it. -/
def ranked : (fuel : Nat) → List (List String) → List Item → Option (Int × List Item)
  | 0, _, _ => none
  | fuel + 1, [], items => single fuel items
  | fuel + 1, rank :: ranks, items =>
      match ranked fuel ranks items with
      | some (first, rest) => onward fuel rank ranks first rest
      | none => none

/-- Takes up the operators of a rank from the left. -/
def onward : (fuel : Nat) → List String → List (List String) → Int → List Item →
    Option (Int × List Item)
  | 0, _, _, _, _ => none
  | fuel + 1, rank, ranks, first, .sign s :: rest =>
      if rank.contains s then
        match ranked fuel ranks rest with
        | some (second, rest) =>
            match apply s first second with
            | some n => onward fuel rank ranks (wrap n) rest
            | none => none
        | none => none
      else some (first, .sign s :: rest)
  | _ + 1, _, _, first, rest => some (first, rest)

def single : (fuel : Nat) → List Item → Option (Int × List Item)
  | 0, _ => none
  | _ + 1, .value n :: rest => some (n, rest)
  | fuel + 1, .sign "(" :: rest =>
      match ranked fuel ranks rest with
      | some (n, .sign ")" :: rest) => some (n, rest)
      | _ => none
  | fuel + 1, .sign "-" :: rest => (single fuel rest).map fun (n, rest) => (wrap (-n), rest)
  | fuel + 1, .sign "+" :: rest => single fuel rest
  | fuel + 1, .sign "!" :: rest => (single fuel rest).map fun (n, rest) => (truth (n = 0), rest)
  | fuel + 1, .sign "~" :: rest => (single fuel rest).map fun (n, rest) => (wrap (-n - 1), rest)
  | _ + 1, _ => none

end

/-- The value of a sum; an empty one is zero, and one that cannot be worked out has none. -/
def eval? (value : Raw → Option Raw) (text : Raw) : Option Int :=
  match items value (text.length + 1) text with
  | none => none
  | some [] => some 0
  | some items =>
      match ranked (32 * items.length + 32) ranks items with
      | some (n, []) => some n
      | _ => none

example : eval? (fun _ => some ['4']) "(i + 1) * 2 - -7 / 2 % 2".toList = some 11 := by
  decide +kernel
example : eval? (fun _ => none) "1 / x".toList = none := by decide +kernel

end ContractReview.Shell.Arithmetic
