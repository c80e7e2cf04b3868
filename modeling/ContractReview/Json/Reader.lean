import ContractReview.Json.Basic
import ContractReview.Number.Numeral

/-!
Reading JSON text. The reader also knows the three names of numbers that are none, allows a repeated
field (the last one counts, at the place of the first) and says where and why a text is refused.

Two kinds of text are left out. An escape for half of a surrogate pair stands for no character;
where it is not paired it is read as a replacement character, and what follows from keeping it is
not told. Lists and objects nest without a limit: that a reader may run out of its stack on a text
that nests too deep is not told either.
-/

namespace ContractReview.Json

/-- Why a text is not JSON. -/
inductive Reason
  | byteOrderMark
  | extraData
  | expectingValue
  | expectingName
  | expectingColon
  | expectingComma
  | unterminated
  | controlCharacter
  | badEscape
  | badCodePoint
deriving DecidableEq, Repr

def Reason.text : Reason → String
  | .byteOrderMark => "Unexpected UTF-8 BOM (decode using utf-8-sig)"
  | .extraData => "Extra data"
  | .expectingValue => "Expecting value"
  | .expectingName => "Expecting property name enclosed in double quotes"
  | .expectingColon => "Expecting ':' delimiter"
  | .expectingComma => "Expecting ',' delimiter"
  | .unterminated => "Unterminated string starting at"
  | .controlCharacter => "Invalid control character at"
  | .badEscape => "Invalid \\escape"
  | .badCodePoint => "Invalid \\uXXXX escape"

/-- A refusal, at the place where the text `rest` begins. -/
inductive Stop
  | refused (reason : Reason) (rest : List Char)
  | tooLong (digits : Nat)
deriving DecidableEq, Repr

def isGap (c : Char) : Bool := c = ' ' ∨ c = '\t' ∨ c = '\n' ∨ c = '\r'

def skipGaps (cs : List Char) : List Char := cs.dropWhile isGap

/-- What a read yields, and the text behind it. -/
abbrev Step (α : Type) := Except Stop (α × List Char)

def hexValue? (c : Char) : Option Nat :=
  let n := c.toNat
  if 48 ≤ n ∧ n ≤ 57 then some (n - 48)
  else if 97 ≤ n ∧ n ≤ 102 then some (n - 87)
  else if 65 ≤ n ∧ n ≤ 70 then some (n - 55)
  else none

def hexFour? (a b c d : Char) : Option Nat := do
  let a ← hexValue? a
  let b ← hexValue? b
  let c ← hexValue? c
  let d ← hexValue? d
  return ((a * 16 + b) * 16 + c) * 16 + d

def isHigh (code : Nat) : Bool := 0xD800 ≤ code && code ≤ 0xDBFF
def isLow (code : Nat) : Bool := 0xDC00 ≤ code && code ≤ 0xDFFF

/-- Half of a pair that lacks its other half has no character of its own. -/
def loneChar (code : Nat) : Char := if isHigh code || isLow code then '\uFFFD' else Char.ofNat code

/-- Adds a code to those read so far, the last one first; two halves of a pair join. -/
def pushCode (code : Nat) : List Nat → List Nat
  | [] => [code]
  | high :: rest =>
      if isHigh high && isLow code then
        (0x10000 + (high - 0xD800) * 0x400 + (code - 0xDC00)) :: rest
      else code :: high :: rest

def simpleEscape? : Char → Option Char
  | '"' => some '"'
  | '\\' => some '\\'
  | '/' => some '/'
  | 'b' => some '\x08'
  | 'f' => some '\x0c'
  | 'n' => some '\n'
  | 'r' => some '\r'
  | 't' => some '\t'
  | _ => none

/-- The rest of a string behind the quotation mark before `opening`; `taken` is reversed. -/
def readString (opening : List Char) (taken : List Nat) : List Char → Step String
  | [] => .error (.refused .unterminated ('"' :: opening))
  | '"' :: rest => .ok (String.ofList (taken.reverse.map loneChar), rest)
  | '\\' :: 'u' :: a :: b :: c :: d :: rest =>
      match hexFour? a b c d with
      | some code =>
          if rest.isEmpty then .error (.refused .badCodePoint ('u' :: a :: b :: c :: d :: rest))
          else readString opening (pushCode code taken) rest
      | none => .error (.refused .badCodePoint ('u' :: a :: b :: c :: d :: rest))
  | '\\' :: 'u' :: rest => .error (.refused .badCodePoint ('u' :: rest))
  | '\\' :: c :: rest =>
      match simpleEscape? c with
      | some e => readString opening (e.toNat :: taken) rest
      | none => .error (.refused .badEscape ('\\' :: c :: rest))
  | '\\' :: [] => .error (.refused .unterminated ('"' :: opening))
  | c :: rest =>
      if c.toNat < 32 then .error (.refused .controlCharacter (c :: rest))
      else readString opening (c.toNat :: taken) rest

def isAsciiDigit (c : Char) : Bool := 48 ≤ c.toNat && c.toNat ≤ 57

/-- A run of plain digits: value, count and rest. -/
def takeDigits (run : Numeral.Run) : List Char → Numeral.Run × List Char
  | [] => (run, [])
  | c :: rest =>
      if isAsciiDigit c then takeDigits (run.push (c.toNat - 48)) rest else (run, c :: rest)

/-- The fraction behind a whole part, if a digit follows the point. -/
def takeFraction : List Char → Option (Numeral.Run × List Char)
  | '.' :: c :: rest =>
      if isAsciiDigit c then some (takeDigits ⟨0, 0⟩ (c :: rest)) else none
  | _ => none

/-- The power behind a mantissa, if a digit follows the mark and its sign. -/
def takePower : List Char → Option (Int × List Char)
  | c :: rest =>
      if c = 'e' ∨ c = 'E' then
        let (negative, rest) := Numeral.unsigned rest
        let (run, rest) := takeDigits ⟨0, 0⟩ rest
        if run.count = 0 then none
        else some (if negative then -(run.value : Int) else run.value, rest)
      else none
  | [] => none

/-- The number at `start`, of which a minus sign may have been read. -/
def readNumber (start : List Char) (negative : Bool) (cs : List Char) : Step Json :=
  let wholePart : Option (Numeral.Run × List Char) :=
    match cs with
    | '0' :: rest => some (⟨0, 1⟩, rest)
    | c :: rest => if isAsciiDigit c then some (takeDigits ⟨0, 0⟩ (c :: rest)) else none
    | [] => none
  match wholePart with
  | none => .error (.refused .expectingValue start)
  | some (run, rest) =>
      let fraction := takeFraction rest
      let afterFraction := (fraction.map (·.2)).getD rest
      let power := takePower afterFraction
      if fraction.isNone && power.isNone then
        if Numeral.digitLimit < run.count then .error (.tooLong run.count)
        else .ok (.num (.int (if negative then -(run.value : Int) else run.value)), rest)
      else
        let tail := (fraction.map (·.1)).getD ⟨0, 0⟩
        let exponent := (power.map (·.1)).getD 0
        .ok (.num (.float (Double.ofDecimal negative
          (run.value * Nat.pow 10 tail.count + tail.value) (exponent - tail.count))),
          (power.map (·.2)).getD afterFraction)

/-- The names of values, with what they stand for. -/
def names : List (List Char × Json) :=
  [("null".toList, .null), ("true".toList, .bool true), ("false".toList, .bool false),
   ("NaN".toList, .num (.float Double.notANumber)),
   ("Infinity".toList, .num (.float (Double.infinity false))),
   ("-Infinity".toList, .num (.float (Double.infinity true)))]

def readName? (cs : List Char) : Option (Json × List Char) :=
  names.findSome? fun (name, value) => (Text.after? name cs).map fun rest => (value, rest)

mutual

/-- A value, at whose first character the text begins. -/
def readValue : (fuel : Nat) → List Char → Step Json
  | 0, cs => .error (.refused .expectingValue cs)
  | _ + 1, [] => .error (.refused .expectingValue [])
  | _ + 1, '"' :: rest =>
      match readString rest [] rest with
      | .ok (text, rest) => .ok (.str text, rest)
      | .error stop => .error stop
  | fuel + 1, '{' :: rest =>
      match skipGaps rest with
      | '}' :: rest => .ok (.obj [], rest)
      | rest => readFields fuel [] rest
  | fuel + 1, '[' :: rest =>
      match skipGaps rest with
      | ']' :: rest => .ok (.arr [], rest)
      | rest => readItems fuel [] rest
  | _ + 1, c :: rest =>
      match readName? (c :: rest) with
      | some found => .ok found
      | none =>
          if c = '-' then readNumber (c :: rest) true rest
          else readNumber (c :: rest) false (c :: rest)

/-- The items from the next one on; those before it are in `items`, reversed. -/
def readItems : (fuel : Nat) → (items : List Json) → List Char → Step Json
  | 0, _, cs => .error (.refused .expectingValue cs)
  | fuel + 1, items, cs =>
      match readValue fuel cs with
      | .error stop => .error stop
      | .ok (value, rest) =>
          match skipGaps rest with
          | ']' :: rest => .ok (.arr (value :: items).reverse, rest)
          | ',' :: rest => readItems fuel (value :: items) (skipGaps rest)
          | rest => .error (.refused .expectingComma rest)

/-- The fields from the next one on; those before it are in `fields`. -/
def readFields : (fuel : Nat) → (fields : List (String × Json)) → List Char → Step Json
  | 0, _, cs => .error (.refused .expectingName cs)
  | fuel + 1, fields, '"' :: rest =>
      match readString rest [] rest with
      | .error stop => .error stop
      | .ok (name, rest) =>
          match skipGaps rest with
          | ':' :: rest =>
              match readValue fuel (skipGaps rest) with
              | .error stop => .error stop
              | .ok (value, rest) =>
                  let fields := insert name value fields
                  match skipGaps rest with
                  | '}' :: rest => .ok (.obj fields, rest)
                  | ',' :: rest => readFields fuel fields (skipGaps rest)
                  | rest => .error (.refused .expectingComma rest)
          | rest => .error (.refused .expectingColon rest)
  | _ + 1, _, cs => .error (.refused .expectingName cs)

end

/-- One value with nothing but gaps around it. -/
def readAll (cs : List Char) : Except Stop Json :=
  match cs with
  | '\uFEFF' :: _ => .error (.refused .byteOrderMark cs)
  | _ =>
      match readValue (cs.length + 1) (skipGaps cs) with
      | .error stop => .error stop
      | .ok (value, rest) =>
          match skipGaps rest with
          | [] => .ok value
          | rest => .error (.refused .extraData rest)

def read (text : String) : Except Stop Json := readAll text.toList

/-- The value of a text that is JSON. -/
def read? (text : String) : Option Json := (read text).toOption

/-- A refusal with its line, column and place, as they are counted in `text`. -/
def Stop.describe (text : List Char) : Stop → String
  | .tooLong digits => (Numeral.Misread.tooLong digits).text
  | .refused reason rest =>
      let place := text.length - rest.length
      let before := text.take place
      let line := before.count '\n' + 1
      let column := (before.reverse.takeWhile (· ≠ '\n')).length + 1
      reason.text ++ ": line " ++ toString line ++ " column " ++ toString column ++
        " (char " ++ toString place ++ ")"

example : (readAll " [1, -0.5e1, \"a\\u00e9\"] ".toList).toOption.map kind = some .list := by
  decide +kernel

end ContractReview.Json
