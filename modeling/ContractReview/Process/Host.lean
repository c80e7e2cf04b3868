import ContractReview.Process.Shell.Running
import ContractReview.Number.Double

/-!
A machine in memory that starts programs as tools are started: in a folder, with variables, and for
a limited time. It stands for the host that the tools run on, which is no part of the program: the
program only calls tools, and learns of a call what its course tells (`ToolCall.settle`). The host
is here so that calls can be run and their courses seen; the analyzers take their tools as they are
given (`Tools`), whatever runs them.
-/

namespace ContractReview.Host

open Shell

/-- How a program is to be started. Without variables it is given those of the machine. -/
structure Start where
  call : ToolCall
  «variables» : List (String × String) := []
  folder : Option String := none

def raw (text : String) : Raw := (Text.octetsOf text).map Char.ofNat

def octets (text : Raw) : List Nat := text.map Char.toNat

/-- The longest argument that a program can be given, with the octet that ends it. -/
def longestArgument : Nat := 131072

/-- The steps within which a program ends, if it ends at all. -/
def stepLimit : Nat := 200000

/-- What starting a program takes, in nanoseconds. -/
def startTime : Nat := 1000000

def searchPath (s : Start) : List String :=
  match s.«variables».lookup "PATH" with
  | some path => Text.splitAt ':' path
  | none => Volume.searchPath

/-- What a start says of a NUL or a variable's name that cannot be. -/
def unsayable? (s : Start) : Option Hindrance :=
  let hasNull (text : String) : Bool := text.toList.contains '\x00'
  if s.«variables».any (·.1.toList.contains '=') then some .badVariable
  else if (s.call.command :: s.call.args).any hasNull || s.folder.any hasNull ||
      s.«variables».any (fun (name, value) => hasNull name || hasNull value) then some .nullByte
  else none

/-- The hindrance that an entry is for a program that should stand there. -/
def hindranceAt (place : String) : Volume.Entry → Hindrance
  | .missing | .program _ => .missing
  | .folder | .file => .refused 13 "Permission denied" place
  | .blocked => .refused 20 "Not a directory" place
  | .tooLong => .refused 36 "File name too long" place

/-- The folder to start in. -/
def folder (s : Start) : Except Hindrance (List String) :=
  match s.folder with
  | none => .ok Volume.home
  | some path =>
      match Volume.find [] path with
      | (place, .folder) => .ok place
      | (_, .missing) => .error .missing
      | (_, .tooLong) => .error (.refused 36 "File name too long" path)
      | _ => .error (.refused 20 "Not a directory" path)

/-- The program to start and the folder to start it in; or what keeps it from being started. -/
def prepare (s : Start) : Except Hindrance (String × List String) :=
  match unsayable? s with
  | some why => .error why
  | none =>
      match folder s with
      | .error why => .error why
      | .ok place =>
          match Volume.program? place (searchPath s) s.call.command with
          | .error entry => .error (hindranceAt s.call.command entry)
          | .ok program =>
              if s.call.args.any fun text => (Text.octetsOf text).length ≥ longestArgument then
                .error (.refused 7 "Argument list too long" s.call.command)
              else .ok (program, place)

/-- A program that is still running at the end of its time is stopped. -/
def inTime (timeout : Number) (nanoseconds : Nat) : Bool :=
  (Number.float (Double.ofDecimal false (startTime + nanoseconds) (-9))).ltb timeout

def start (s : Start) : Course :=
  match prepare s with
  | .error why => .hindered why
  | .ok (program, place) =>
      let m : Machine :=
        { name := raw program
          bindings := s.«variables».map fun (name, value) =>
            { name := raw name, value := raw value, exported := true }
          folder := place }
      let m := runFile stepLimit program (s.call.args.map raw) m
      if m.stage matches .endless then .overran
      else if !inTime s.call.timeout (max m.time m.held) then .overran
      else .ended (octets (m.writtenTo .output)) (octets (m.writtenTo .errors)) m.ending

def run (s : Start) : Except Fault ToolOutput := s.call.settle (start s)

end ContractReview.Host
