import ContractReview.Process.Shell.Machine

/-!
The commands of the host's shell that start no other: what each does to the machine that it runs on.
-/

namespace ContractReview.Shell

open Arithmetic (signed?)

/-! ## Tests -/

def fileTest (m : Machine) (operator : Char) (path : Raw) : Bool :=
  let kept := (m.files.lookup (m.settled path)).isSome
  match operator, (m.place path).2 with
  | 'd', .folder => true
  | 'd', _ => false
  | 'f', .file | 'f', .program _ => true
  | 'f', _ => kept
  | 'x', .folder | 'x', .program _ => true
  | 'x', _ => false
  | 's', .missing => ((m.read? path).getD []).length > 0
  | _, .folder | _, .file | _, .program _ => true
  | _, _ => kept

def compare (operator : String) (a b : Int) : Option Bool :=
  match operator with
  | "-eq" => some (a == b)
  | "-ne" => some (a != b)
  | "-lt" => some (a < b)
  | "-le" => some (a ≤ b)
  | "-gt" => some (a > b)
  | "-ge" => some (a ≥ b)
  | _ => none

def illegalNumber (text : Raw) : String := "Illegal number: " ++ String.ofList text

/-- The outcome of a test of two operands. -/
def binaryTest (a : Raw) (operator : String) (b : Raw) : Except String Bool :=
  if operator = "=" ∨ operator = "==" then .ok (a == b)
  else if operator = "!=" then .ok (a != b)
  else if operator = "-a" then .ok (!a.isEmpty && !b.isEmpty)
  else if operator = "-o" then .ok (!a.isEmpty || !b.isEmpty)
  else if (compare operator 0 0).isNone then .error (operator ++ ": unexpected operator")
  else
    match signed? a, signed? b with
    | none, _ => .error (illegalNumber a)
    | _, none => .error (illegalNumber b)
    | some a, some b => .ok ((compare operator a b).getD false)

def test (m : Machine) : List Raw → Except String Bool
  | [] => .ok false
  | [a] => .ok (!a.isEmpty)
  | ['!'] :: rest => (test m rest).map (!·)
  | ['-', c] :: [a] =>
      if c = 'z' then .ok a.isEmpty
      else if c = 'n' then .ok (!a.isEmpty)
      else if "bcdefghkLprsStuwxOG".toList.contains c then .ok (fileTest m c a)
      else .error (String.ofList ['-', c] ++ ": unexpected operator")
  | [a, operator, b] => binaryTest a (String.ofList operator) b
  | a :: operator :: b :: join :: rest =>
      match binaryTest a (String.ofList operator) b, test m rest with
      | .error why, _ | _, .error why => .error why
      | .ok first, .ok others =>
          if join = "-a".toList then .ok (first && others)
          else if join = "-o".toList then .ok (first || others)
          else .error (String.ofList join ++ ": unexpected operator")
  | a :: _ => .error (String.ofList a ++ ": unexpected operator")

def runTest (m : Machine) (name : String) (arguments : List Raw) : Machine :=
  match test m arguments with
  | .ok true => m.answer 0
  | .ok false => m.answer 1
  | .error why => m.complain (name ++ ": " ++ why) 2

/-! ## Signals -/

def signals : List (String × Nat) :=
  [("HUP", 1), ("INT", 2), ("QUIT", 3), ("ILL", 4), ("TRAP", 5), ("ABRT", 6), ("BUS", 7),
    ("FPE", 8), ("KILL", 9), ("USR1", 10), ("SEGV", 11), ("USR2", 12), ("PIPE", 13), ("ALRM", 14),
    ("TERM", 15), ("STKFLT", 16), ("CHLD", 17), ("CONT", 18), ("STOP", 19), ("TSTP", 20),
    ("TTIN", 21), ("TTOU", 22), ("URG", 23), ("XCPU", 24), ("XFSZ", 25), ("VTALRM", 26),
    ("PROF", 27), ("WINCH", 28), ("IO", 29), ("PWR", 30), ("SYS", 31)]

def signal? (text : Raw) : Option Nat :=
  if !text.isEmpty && text.all Char.isDigit then
    some (Arithmetic.inBase 10 text)
  else signals.lookup (String.ofList (text.map Char.toUpper))

/-- Signals that a program takes no notice of. -/
def unnoticed : List Nat := [0, 17, 18, 23, 28]

def stopping : List Nat := [19, 20, 21, 22]

/-- Signals that no trap can hold. -/
def absolute : List Nat := [9, 19]

/-- What becomes of a shell that a signal is sent to. A stopped one does not end. -/
def receive (m : Machine) (signal : Nat) : Machine :=
  match if signal = 0 ∨ absolute.contains signal then none else m.traps.lookup signal with
  | some action => { m.answer 0 with sprung := some action }
  | none =>
      if unnoticed.contains signal then m.answer 0
      else if stopping.contains signal then { m with stage := .endless }
      else { m with stage := .leaving (.killed signal) }

/-- What a shell says of a program that a signal ended. -/
def obituary (signal : Nat) : String :=
  match signal with
  | 1 => "Hangup\n"
  | 3 => "Quit\n"
  | 4 => "Illegal instruction\n"
  | 5 => "Trace/breakpoint trap\n"
  | 6 => "Aborted\n"
  | 7 => "Bus error\n"
  | 8 => "Floating point exception\n"
  | 9 => "Killed\n"
  | 10 => "User defined signal 1\n"
  | 11 => "Segmentation fault\n"
  | 12 => "User defined signal 2\n"
  | 14 => "Alarm clock\n"
  | 15 => "Terminated\n"
  | _ => ""

/-- Sets what is done about signals; a hyphen takes it back. -/
def trap (m : Machine) : List Raw → Machine
  | [] => m.answer 0
  | action :: names =>
      let numbers := names.filterMap fun name =>
        if name = "EXIT".toList then some 0 else signal? name
      let others := m.traps.filter fun (n, _) => !numbers.contains n
      let added := if action = ['-'] then [] else numbers.map fun n => (n, action)
      { m.answer 0 with traps := added ++ others }

def sendTo (m : Machine) (signal : Nat) (goals : List Raw) : Machine :=
  match goals with
  | [] =>
      m.complain ("kill: Usage: kill [-s sigspec | -signum | -sigspec] [pid | job]... or\n" ++
        "kill -l [exitstatus]") 2
  | goal :: _ =>
      if goal = Machine.ownNumber then receive m signal
      else if (signed? goal).isNone then
        m.complain ("kill: Illegal number: " ++ String.ofList goal) 2
      else m.complain "kill: No such process" 1

def kill (m : Machine) (arguments : List Raw) : Machine :=
  match arguments with
  | ['-', 's'] :: name :: goals =>
      match signal? name with
      | some signal => sendTo m signal goals
      | none => m.complain ("kill: invalid signal number or name: " ++ String.ofList name) 2
  | ['-', '-'] :: goals => sendTo m 15 goals
  | ('-' :: name) :: goals =>
      match signal? name with
      | some signal => sendTo m signal goals
      | none => m.complain ("kill: Illegal option -" ++ String.ofList (name.take 1)) 2
  | goals => sendTo m 15 goals

/-! ## Programs -/

/-- A text between typographic quotation marks, in octets. -/
def inMarks (text : Raw) : Raw :=
  let octets (s : String) : Raw := (Text.octetsOf s).map Char.ofNat
  octets "\u2018" ++ text ++ octets "\u2019"

/-- A time in nanoseconds: digits, a part behind a point, and a letter for the unit. -/
def duration? (text : Raw) : Option Nat :=
  let whole := text.takeWhile Char.isDigit
  let rest := text.drop whole.length
  let (part, rest) :=
    match rest with
    | '.' :: rest => (rest.takeWhile Char.isDigit, rest.dropWhile Char.isDigit)
    | rest => ([], rest)
  let unit : Option Nat :=
    match rest with
    | [] | ['s'] => some 1
    | ['m'] => some 60
    | ['h'] => some 3600
    | ['d'] => some 86400
    | _ => none
  if whole.isEmpty && part.isEmpty then none
  else unit.map fun unit =>
    unit * (Arithmetic.inBase 10 whole * 1000000000 +
      Arithmetic.inBase 10 part * 1000000000 / Nat.pow 10 part.length)

def sleep (m : Machine) (arguments : List Raw) : Machine :=
  let hint := "Try 'sleep --help' for more information.\n".toList
  let refuse (m : Machine) (why : Raw) : Machine :=
    (m.writeTo m.errors ("sleep: ".toList ++ why ++ '\n' :: hint)).answer 1
  if arguments.isEmpty then refuse m "missing operand".toList
  else
    let endless (text : Raw) : Bool := ["inf", "infinity"].contains (String.ofList text)
    match arguments.find? fun text => !endless text && (duration? text).isNone with
    | some text => refuse m ("invalid time interval ".toList ++ inMarks text)
    | none =>
        if arguments.any endless then { m with stage := .endless }
        else { m.answer 0 with time := m.time + ((arguments.filterMap duration?).foldl (· + ·) 0) }

def cat (m : Machine) : List Raw → Machine
  | [] => { (m.print m.input).answer 0 with input := [] }
  | ['-'] :: rest =>
      let m := { m.print m.input with input := [] }
      if rest.isEmpty then m.answer 0 else cat m rest
  | path :: rest =>
      let m :=
        match m.read? path with
        | some text => (m.print text).answer m.status
        | none =>
            let why :=
              match (m.place path).2 with
              | .folder => "Is a directory"
              | .blocked => "Not a directory"
              | _ => "No such file or directory"
            (m.printError ("cat: " ++ String.ofList path ++ ": " ++ why ++ "\n")).answer 1
      if rest.isEmpty then m else cat m rest

/-- The first lines of a text. -/
def firstLines : (count : Nat) → Raw → Raw
  | 0, _ => []
  | _, [] => []
  | n + 1, c :: rest => if c = '\n' then c :: firstLines n rest else c :: firstLines (n + 1) rest

/-- The number that stands in or behind an option. -/
def optionNumber (letter : Char) : List Raw → Option Nat
  | ('-' :: c :: digits) :: rest =>
      if c = letter then
        match digits, rest with
        | [], text :: _ => Arithmetic.number? text
        | digits, _ => Arithmetic.number? digits
      else none
  | _ => none

def head (m : Machine) (arguments : List Raw) : Machine :=
  let text :=
    match optionNumber 'c' arguments with
    | some n => m.input.take n
    | none => firstLines ((optionNumber 'n' arguments).getD 10) m.input
  { (m.print text).answer 0 with input := [] }

def wordCount (m : Machine) (arguments : List Raw) : Machine :=
  let count :=
    match arguments with
    | ['-', 'l'] :: _ => m.input.count '\n'
    | _ => m.input.length
  { (m.print ((toString count).toList ++ ['\n'])).answer 0 with input := [] }

def printVariables (m : Machine) (arguments : List Raw) : Machine :=
  let shown := m.environment
  match arguments with
  | [] => (m.print (shown.flatMap fun v => v.name ++ '=' :: v.value ++ ['\n'])).answer 0
  | names =>
      let found := names.filterMap fun name => (shown.find? (·.name = name)).map (·.value)
      (m.print (found.flatMap (· ++ ['\n']))).answer (if found.length = names.length then 0 else 1)

/-- A program that starts no other. -/
def runProgram (m : Machine) (name : String) (arguments : List Raw) : Machine :=
  match name with
  | "true" => m.answer 0
  | "false" => m.answer 1
  | "echo" => (m.print (Printing.echo false arguments)).answer 0
  | "printf" =>
      match arguments with
      | format :: rest => (m.print (Printing.printf format rest)).answer 0
      | [] => (m.printError "printf: missing operand\n").answer 1
  | "pwd" => (m.print ((Volume.pathOf m.folder).toList ++ ['\n'])).answer 0
  | "sleep" => sleep m arguments
  | "cat" => cat (m.answer 0) arguments
  | "head" => head m arguments
  | "wc" => wordCount m arguments
  | "printenv" => printVariables m arguments
  | "seq" =>
      match Printing.seq? arguments with
      | some text => (m.print text).answer 0
      | none => (m.printError "seq: invalid floating point argument\n").answer 1
  | "test" => runTest m name arguments
  | "[" =>
      if arguments.getLast? = some [']'] then runTest m name arguments.dropLast
      else (m.printError "[: missing ']'\n").answer 2
  | _ => m

/-! ## The shell's own commands -/

def status? (text : Raw) : Option Nat :=
  if !text.isEmpty && text.all Char.isDigit then some (Arithmetic.inBase 10 text)
  else none

/-- A command with a number, or a given one without. -/
def withNumber (m : Machine) (name : String) (default : Nat) (arguments : List Raw)
    (act : Nat → Machine) : Machine :=
  match arguments with
  | [] => act default
  | text :: _ =>
      match status? text with
      | some n => act n
      | none => m.giveUp (name ++ ": " ++ illegalNumber text)

def changeFolder (m : Machine) (arguments : List Raw) : Machine :=
  let path := (arguments.head?.or (m.value? "HOME".toList)).getD []
  match m.place path with
  | (place, .folder) => { m.answer 0 with folder := place }
  | _ => m.complain ("cd: can't cd to " ++ String.ofList path) 2

/-- Takes a line into a variable. Without a line the variable is empty. -/
def readLine (m : Machine) (arguments : List Raw) : Machine :=
  let name := (arguments.getLast?).getD "REPLY".toList
  let line := m.input.takeWhile (· ≠ '\n')
  let rest := m.input.drop line.length
  let m := { m.set name line with input := rest.drop 1 }
  m.answer (if rest.isEmpty then 1 else 0)

def assign (m : Machine) (binding : Raw) : Machine :=
  let name := binding.takeWhile (· ≠ '=')
  match binding.drop name.length with
  | _ :: value => m.set name value
  | [] => if (m.value? name).isNone then m.set name [] else m

/-- The commands that a shell does not start a program for. -/
def builtin? (m : Machine) (name : String) (arguments : List Raw) : Option Machine :=
  match name with
  | ":" | "umask" | "ulimit" => some (m.answer 0)
  | "trap" => some (trap m arguments)
  | "true" | "false" | "pwd" => some (runProgram m name arguments)
  | "echo" => some ((m.print (Printing.echo true arguments)).answer 0)
  | "printf" =>
      if arguments.isEmpty then some (m.complain "printf: usage: printf format [arg ...]" 2)
      else some (runProgram m name arguments)
  | "test" => some (runTest m name arguments)
  | "[" =>
      if arguments.getLast? = some [']'] then some (runTest m name arguments.dropLast)
      else some (m.complain "[: missing ]" 2)
  | "exit" | "return" =>
      some (withNumber m name m.status arguments fun n =>
        { m with stage := .leaving (.exited (n % 256)) })
  | "break" =>
      some (withNumber m name 1 arguments fun n =>
        if m.loops = 0 then m.answer 0 else { m.answer 0 with stage := .breaking n })
  | "continue" =>
      some (withNumber m name 1 arguments fun n =>
        if m.loops = 0 then m.answer 0 else { m.answer 0 with stage := .continuing n })
  | "shift" =>
      some (withNumber m name 1 arguments fun n =>
        if n > m.arguments.length then m.giveUp "shift: can't shift that many"
        else { m.answer 0 with arguments := m.arguments.drop n })
  | "cd" => some (changeFolder m arguments)
  | "read" => some (readLine m arguments)
  | "kill" => some (kill m arguments)
  | "wait" => some { m.answer 0 with time := max m.time m.held }
  | "export" =>
      some ((arguments.foldl
        (fun m binding => (assign m binding).share (binding.takeWhile (· ≠ '='))) m).answer 0)
  | "unset" => some ((arguments.foldl Machine.unset m).answer 0)
  | "set" =>
      match arguments with
      | ['-', '-'] :: rest => some { m.answer 0 with arguments := rest }
      | ('-' :: _) :: _ | [] => some (m.answer 0)
      | rest => some { m.answer 0 with arguments := rest }
  | _ => none

end ContractReview.Shell
