import ContractReview.Fault
import ContractReview.Json.Literal
import ContractReview.Text.Pattern

/-!
The log: which records pass, how they are written, and where to.
-/

namespace ContractReview.Log

open Text

/-- A level by its number. -/
abbrev Level := Int

def levels : List (String × Level) :=
  [("CRITICAL", 50), ("ERROR", 40), ("WARNING", 30), ("INFO", 20), ("DEBUG", 10), ("NOTSET", 0)]

/-- Other names that levels are asked for by. -/
def otherNames : List (String × Level) := [("FATAL", 50), ("WARN", 30)]

def levelName (level : Level) : String :=
  ((levels.find? (·.2 = level)).map (·.1)).getD ("Level " ++ toString level)

/-- The level of a name in any case; an empty or unknown name gives the default. -/
def levelOf (name : Json) (default : Level := 20) : Level :=
  if name.isFilled then ((levels ++ otherNames).lookup (upper name.shown)).getD default else default

structure Record where
  logger : String
  level : Level
  message : String
deriving DecidableEq, Repr

/-- The logger above all others. -/
def root : String := "root"

/-! ### Formats -/

/-- A place of a format that a part of the record goes to. -/
structure Directive where
  part : String
  flags : List Char
  width : Nat
  precision : Option Nat
  conversion : Char
deriving DecidableEq, Repr

def flagChars : List Char := "#0+ -".toList
def conversions : List Char := "diouxXefgcrsaEFGCRSA%".toList

def numberIn (cs : List Char) : Nat := cs.foldl (fun n c => n * 10 + (c.toNat - 48)) 0

def isPlainDigit (c : Char) : Bool := '0' ≤ c && c ≤ '9'

/-- The directive behind a percent sign, and what follows it. -/
def directive? (cs : List Char) : Option (Directive × List Char) :=
  match cs with
  | '(' :: rest =>
      let part := rest.takeWhile (· ≠ ')')
      match rest.drop part.length with
      | [] => none
      | _ :: rest =>
          let flags := rest.takeWhile flagChars.contains
          let rest := rest.drop flags.length
          let width := rest.takeWhile isPlainDigit
          let rest := rest.drop width.length
          let (precision, rest) :=
            match rest with
            | '.' :: tail =>
                let digits := tail.takeWhile isPlainDigit
                (some (numberIn digits), tail.drop digits.length)
            | rest => (none, rest)
          match rest with
          | conversion :: rest =>
              some (⟨String.ofList part, flags, numberIn width, precision, conversion⟩, rest)
          | [] => none
  | _ => none

/-- The text of a part of a record, and whether it is a number. -/
def part (r : Record) (name : String) : List Char × Bool :=
  match name with
  | "name" => (r.logger.toList, false)
  | "levelname" => ((levelName r.level).toList, false)
  | "levelno" => (Double.intText r.level, true)
  | "message" | "msg" => (r.message.toList, false)
  | _ => ([], false)

/-- A text in its width: to the right unless a flag says otherwise. -/
def padded (d : Directive) (isNumber : Bool) (cs : List Char) : List Char :=
  let missing := d.width - cs.length
  if d.flags.contains '-' then cs ++ List.replicate missing ' '
  else if isNumber && d.flags.contains '0' then
    match cs with
    | '-' :: digits => '-' :: List.replicate missing '0' ++ digits
    | cs => List.replicate missing '0' ++ cs
  else List.replicate missing ' ' ++ cs

def written (r : Record) (d : Directive) : List Char :=
  let (text, isNumber) := part r d.part
  if isNumber && d.conversion ≠ 's' then
    let text := if d.flags.contains '+' && text.head? ≠ some '-' then '+' :: text else text
    padded d true text
  else
    let text := if d.conversion = 'r' && !isNumber then quotedChars text else text
    padded d false (match d.precision with
      | some n => text.take n
      | none => text)

/-- A record in a format. -/
def formatFrom (r : Record) : (fuel : Nat) → List Char → List Char
  | 0, cs => cs
  | _, [] => []
  | fuel + 1, '%' :: '%' :: rest => '%' :: formatFrom r fuel rest
  | fuel + 1, '%' :: rest =>
      match directive? rest with
      | some (d, rest) => written r d ++ formatFrom r fuel rest
      | none => '%' :: formatFrom r fuel rest
  | fuel + 1, c :: rest => c :: formatFrom r fuel rest

def format (text : String) (r : Record) : String :=
  String.ofList (formatFrom r text.length text.toList)

/-- A format names at least one part of a record. -/
def validFormat : Pattern :=
  let size := Pattern.either (.one (· = '*')) (.many 1 isDigit)
  Pattern.inOrder [.literal "%(", .many 1 isWord, .literal ")", .many 0 flagChars.contains,
    .optional size, .optional (.both (.literal ".") size), .one conversions.contains]

/-! ### Channels -/

structure Options where
  level : Level := 20
  format : String := "%(asctime)s - %(name)s - %(levelname)s - %(message)s"
  file : Option String := none

/-- The log when it is set up: its format, and the file it goes to besides the error output. -/
structure Channels where
  level : Level
  format : String
  file : Option String
deriving DecidableEq, Repr

namespace Channels

/-- The lines of the records that pass. -/
def lines (c : Channels) (records : List Record) : List String :=
  (records.filter fun r => c.level ≤ r.level).map (Log.format c.format)

end Channels

/-- Sets up the log, and gives the records of doing so. A file that cannot be opened is left out. -/
def setUp (o : Options) (canOpen : String → Bool) : Except Fault (Channels × List Record) :=
  let format := if o.format = "" then "%(message)s" else o.format
  if !validFormat.foundIn format.toList then .error (.badFormat format)
  else
    let done : Record := ⟨root, 10, "Logging configured. Level=" ++ levelName o.level⟩
    match o.file with
    | none | some "" => .ok (⟨o.level, format, none⟩, [done])
    | some file =>
        if file.toList.contains '\x00' then .error .nullByte
        else if canOpen file then
          .ok (⟨o.level, format, some file⟩, [⟨root, 20, "Logging to file: " ++ file⟩, done])
        else
          .ok (⟨o.level, format, none⟩,
            [⟨root, 40, "Failed to set up file logging to " ++ file⟩, done])

example : format "[%(levelname)-8s] %(message)s 100%%" ⟨"a", 25, "odd"⟩ =
    "[Level 25] odd 100%" := by decide +kernel

end ContractReview.Log
