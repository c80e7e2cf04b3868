import ContractReview.Process.Shell.Commands
import ContractReview.Process.Shell.Reader

/-!
How the host runs its programs, scripts above all. Words are put together first and split into
fields, then commands act on the machine. A run that its fuel does not cover is taken for one
without an end.
-/

namespace ContractReview.Shell

/-- What putting a word together yields: characters, places where it may be split, places where it
has to be, and a trace of quotes around nothing. -/
inductive Mark
  | char (c : Char)
  | gap
  | border
  | present

/-- The fields that marks make up; `current` is the field begun. -/
def fieldsFrom (current : Option Raw) : List Mark → List Raw
  | [] => current.toList
  | .char c :: rest => fieldsFrom (some (current.getD [] ++ [c])) rest
  | .present :: rest => fieldsFrom (some (current.getD [])) rest
  | .border :: rest => current.getD [] :: fieldsFrom (some []) rest
  | .gap :: rest => current.toList ++ fieldsFrom none rest

/-- The text that marks make up where nothing is split. -/
def textOf (marks : List Mark) : Raw :=
  marks.flatMap fun
    | .char c => [c]
    | .gap | .border => [' ']
    | .present => []

/-- The marks of a text that was put in: blanks split it where it is not quoted. -/
def marksOf (quoted : Bool) (text : Raw) : List Mark :=
  text.map fun c => if !quoted && (c == ' ' || c == '\t' || c == '\n') then .gap else .char c

/-- The marks of several texts put in side by side. -/
def marksOfAll (quoted : Bool) (texts : List Raw) : List Mark :=
  ((texts.map (marksOf quoted)).intersperse [if quoted then .border else .gap]).flatten

/-- The name within braces, and what follows it. -/
def parameterName : Raw → Raw × Raw
  | [] => ([], [])
  | c :: rest =>
      if isNameStart c then (c :: rest.takeWhile isNameChar, rest.dropWhile isNameChar)
      else if c.isDigit then (c :: rest.takeWhile Char.isDigit, rest.dropWhile Char.isDigit)
      else ([c], rest)

/-- The text of a parameter, if it is set. -/
def parameter? (m : Machine) (name : Raw) : Option Raw :=
  match name with
  | ['#'] => some (toString m.arguments.length).toList
  | ['?'] => some (toString m.status).toList
  | ['$'] => some Machine.ownNumber
  | ['-'] => some []
  | ['0'] => some m.name
  | ['@'] | ['*'] => if m.arguments.isEmpty then none else some (Printing.spaced m.arguments)
  | c :: rest =>
      if c.isDigit then m.arguments[Arithmetic.inBase 10 (c :: rest) - 1]? else m.value? name
  | [] => none

/-- What stands in for a parameter that is not set, or for one that is. -/
inductive Stead
  | plain
  | absent (replacement : Raw)
  | kept (replacement : Raw)
  | present (replacement : Raw)
  | refused (message : Raw)
  | unreadable

/-- What follows a parameter's name within braces; with a colon an empty text counts as not set. -/
def steadOf : Raw → Bool × Stead
  | [] => (false, .plain)
  | ':' :: rest => (true, (steadFrom rest))
  | rest => (false, steadFrom rest)
where
  steadFrom : Raw → Stead
    | '-' :: text => .absent text
    | '=' :: text => .kept text
    | '+' :: text => .present text
    | '?' :: text => .refused text
    | _ => .unreadable

/-- A loop is left, or gone on with, as many times as was asked for. -/
def atLoop (m : Machine) : Machine × Bool :=
  match m.stage with
  | .breaking n => ({ m with stage := if n ≤ 1 then .going else .breaking (n - 1) }, false)
  | .continuing n =>
      if n ≤ 1 then ({ m with stage := .going }, true)
      else ({ m with stage := .continuing (n - 1) }, false)
  | .going => (m, true)
  | _ => (m, false)

/-- Variables that were set for one command, as they were before it. -/
def restore (before after : Machine) (names : List Raw) : Machine :=
  let kept := after.bindings.filter fun v => !names.contains v.name
  let old := before.bindings.filter fun v => names.contains v.name
  { after with bindings := kept ++ old }

/-- A file that a channel is to lead to. -/
def openFile (m : Machine) (path : Raw) (fresh : Bool) : Option (Machine × Target) :=
  let place := m.settled path
  if place = "/dev/null".toList then some (m, .nowhere)
  else if m.writable path then
    let files :=
      match m.files.lookup place with
      | some old => (place, if fresh then [] else old) :: m.files.filter (·.1 ≠ place)
      | none => (place, []) :: m.files
    some ({ m with files }, .file place)
  else none

def lead (m : Machine) (channel : Nat) (target : Target) : Machine :=
  match channel with
  | 1 => { m with output := target }
  | 2 => { m with errors := target }
  | _ => m

/-- One redirection; false where it fails. -/
def redirect (m : Machine) (channel : Nat) (direction : Direction) (goal : Raw) : Machine × Bool :=
  let shown := String.ofList goal
  match direction with
  | .read =>
      match m.read? goal with
      | some text => ({ m with input := text }, true)
      | none => (m.complain ("cannot open " ++ shown ++ ": No such file") 2, false)
  | .write | .append =>
      match openFile m goal (direction == .write) with
      | some (m, target) => (lead m channel target, true)
      | none => (m.complain ("cannot create " ++ shown ++ ": Directory nonexistent") 2, false)
  | .join =>
      match goal with
      | ['1'] => (lead m channel m.output, true)
      | ['2'] => (lead m channel m.errors, true)
      | ['0'] => (m, true)
      | ['-'] => (lead m channel .nowhere, true)
      | _ => (m.complain (shown ++ ": Bad file descriptor") 2, false)

/-- The machine as a program sees it that the shell starts. -/
def child (m : Machine) : Machine :=
  { m with
    bindings := m.environment
    status := 0
    stage := .going
    loops := 0
    traps := m.traps.filter (·.2.isEmpty) }

/-- A shell after a program that it started. -/
def afterChild (m inner : Machine) : Machine :=
  let m :=
    { m with
      files := inner.files
      input := inner.input
      written := inner.written
      time := inner.time
      held := inner.held }
  match inner.stage, inner.ending with
  | .endless, _ => { m with stage := .endless }
  | _, .exited code => m.answer code
  | _, .killed signal => (m.printError (obituary signal)).answer (128 + signal)

mutual

def expandPiece : (fuel : Nat) → Piece → Machine → List Mark × Machine
  | 0, _, m => ([], { m with stage := .endless })
  | fuel + 1, piece, m =>
      match piece.part with
      | .chars text =>
          (if piece.quoted && text.isEmpty then [.present] else text.map .char, m)
      | .sum inner =>
          let (text, m) := expandText fuel true inner m
          if !m.going then ([], m)
          else
            match Arithmetic.eval? m.value? text with
            | some n => (marksOf piece.quoted (toString n).toList, m)
            | none =>
                let why :=
                  if text.contains '/' || text.contains '%' then "division by zero"
                  else "expecting primary"
                ([], m.giveUp ("arithmetic expression: " ++ why ++ ": \"" ++
                  String.ofList text ++ "\""))
      | .outcome script =>
          let inner := runText fuel script
            { m with output := .pipe m.pipes, pipes := m.pipes + 1, written := [] }
          let text := inner.writtenTo (.pipe m.pipes)
          let others := inner.written.filter (·.1 ≠ .pipe m.pipes)
          let m := m.backFrom { inner with written := others ++ m.written }
          (marksOf piece.quoted (text.reverse.dropWhile (· = '\n')).reverse, m)
      | .value inner => expandValue fuel inner piece.quoted m

/-- What a parameter is replaced by. -/
def expandValue : (fuel : Nat) → (inner : Raw) → (quoted : Bool) → Machine → List Mark × Machine
  | 0, _, _, m => ([], { m with stage := .endless })
  | fuel + 1, inner, quoted, m =>
      match inner with
      | '#' :: c :: rest =>
          (marksOf quoted (toString ((parameter? m (c :: rest)).getD []).length).toList, m)
      | inner =>
          let (name, rest) := parameterName inner
          let (emptyToo, stead) := steadOf rest
          let value := (parameter? m name).filter fun text => !(emptyToo && text.isEmpty)
          let shown (m : Machine) : List Mark × Machine :=
            if name = ['@'] then (marksOfAll quoted m.arguments, m)
            else (marksOf quoted (value.getD []), m)
          match stead, value with
          | .unreadable, _ => ([], m.giveUp "Bad substitution")
          | .plain, _ | .absent _, some _ | .kept _, some _ | .refused _, some _ => shown m
          | .absent text, none => expandWhole fuel quoted text m
          | .present text, some _ => expandWhole fuel quoted text m
          | .present _, none => ([], m)
          | .kept text, none =>
              let (text, m) := expandText fuel quoted text m
              (marksOf quoted text, m.set name text)
          | .refused text, none =>
              let (text, m) := expandText fuel quoted text m
              let text := if text.isEmpty then "parameter not set".toList else text
              ([], m.giveUp (String.ofList name ++ ": " ++ String.ofList text))

/-- Puts together a text that is one word. -/
def expandWhole : (fuel : Nat) → (quoted : Bool) → Raw → Machine → List Mark × Machine
  | 0, _, _, m => ([], { m with stage := .endless })
  | fuel + 1, quoted, text, m =>
      match wholeWord quoted text with
      | .ok word => expandWord fuel word m
      | .error why => ([], m.giveUp why.text)

def expandText : (fuel : Nat) → (quoted : Bool) → Raw → Machine → Raw × Machine
  | 0, _, _, m => ([], { m with stage := .endless })
  | fuel + 1, quoted, text, m =>
      let (marks, m) := expandWhole fuel quoted text m
      (textOf marks, m)

def expandWord : (fuel : Nat) → Word → Machine → List Mark × Machine
  | 0, _, m => ([], { m with stage := .endless })
  | _ + 1, [], m => ([], m)
  | fuel + 1, piece :: rest, m =>
      let (first, m) := expandPiece fuel piece m
      let (others, m) := expandWord fuel rest m
      (first ++ others, m)

/-- The fields of words. -/
def expandWords : (fuel : Nat) → List Word → Machine → List Raw × Machine
  | 0, _, m => ([], { m with stage := .endless })
  | _ + 1, [], m => ([], m)
  | fuel + 1, word :: rest, m =>
      let (marks, m) := expandWord fuel word m
      let (others, m) := expandWords fuel rest m
      (fieldsFrom none marks ++ others, m)

/-- The text of a word that is not split. -/
def expandUnsplit : (fuel : Nat) → Word → Machine → Raw × Machine
  | 0, _, m => ([], { m with stage := .endless })
  | fuel + 1, word, m =>
      let (marks, m) := expandWord fuel (word.map fun piece => { piece with quoted := true }) m
      (textOf marks, m)

def setAll : (fuel : Nat) → List (Raw × Word) → Machine → Machine
  | 0, _, m => { m with stage := .endless }
  | _ + 1, [], m => m
  | fuel + 1, (name, word) :: rest, m =>
      let (value, m) := expandUnsplit fuel word m
      setAll fuel rest (m.set name value)

def redirectAll : (fuel : Nat) → List Redirect → Machine → Machine × Bool
  | 0, _, m => ({ m with stage := .endless }, false)
  | _ + 1, [], m => (m, m.going)
  | fuel + 1, first :: rest, m =>
      let (goal, m) := expandUnsplit fuel first.goal m
      match redirect m first.channel first.direction goal with
      | (m, true) => redirectAll fuel rest m
      | (m, false) => (m, false)

/-- Runs the text that is all of a shell's script, and what it set for its end. -/
def runWhole : (fuel : Nat) → Raw → Machine → Machine
  | 0, _, m => { m with stage := .endless }
  | fuel + 1, text, m =>
      let m := runText fuel text m
      match m.stage, m.traps.lookup 0 with
      | .endless, _ | .leaving (.killed _), _ | _, none => m
      | _, some action =>
          let code := m.ending
          let after := runText fuel action { m with stage := .going, traps := [] }
          if after.going then { after with stage := .leaving code } else after

/-- Runs a script's text. -/
def runText : (fuel : Nat) → Raw → Machine → Machine
  | 0, _, m => { m with stage := .endless }
  | fuel + 1, text, m =>
      match Script.read text with
      | .ok script => run fuel script m
      | .error why => m.giveUp why.text

/-- A shell that is started by its name. -/
def runShell : (fuel : Nat) → (name : String) → List Raw → Machine → Machine
  | 0, _, _, m => { m with stage := .endless }
  | fuel + 1, name, arguments, m =>
      match arguments with
      | [] => runWhole fuel m.input { m with name := name.toList, input := [] }
      | ['-', 'c'] :: script :: rest =>
          runWhole fuel script
            { m with name := rest.head?.getD name.toList, arguments := rest.tail }
      | [['-', 'c']] => (m.printError (name ++ ": 0: -c requires an argument\n")).answer 2
      | path :: rest =>
          match m.read? path with
          | some script => runWhole fuel script { m with name := path, arguments := rest }
          | none =>
              (m.printError (name ++ ": 0: cannot open " ++ String.ofList path ++
                ": No such file\n")).answer 2

/-- Runs a program of the machine. -/
def runFile : (fuel : Nat) → (name : String) → List Raw → Machine → Machine
  | 0, _, _, m => { m with stage := .endless }
  | fuel + 1, name, arguments, m =>
      if Volume.shells.contains name then runShell fuel name arguments m
      else if name = "env" then
        let bindings := arguments.takeWhile (·.contains '=')
        let m := bindings.foldl
          (fun m binding => (assign m binding).share (binding.takeWhile (· ≠ '='))) m
        match arguments.drop bindings.length with
        | [] => printVariables m []
        | command :: rest => launch fuel command rest m
      else runProgram m name arguments

/-- Finds a program by its name and runs it. -/
def launch : (fuel : Nat) → (command : Raw) → List Raw → Machine → Machine
  | 0, _, _, m => { m with stage := .endless }
  | fuel + 1, command, arguments, m =>
      let name := String.ofList command
      let search :=
        match m.value? "PATH".toList with
        | some path => Text.splitAt ':' (String.ofList path)
        | none => Volume.searchPath
      match Volume.program? m.folder search name with
      | .ok program => afterChild m (runFile fuel program arguments (child m))
      | .error .missing | .error .blocked => m.complain (name ++ ": not found") 127
      | .error _ => m.complain (name ++ ": Permission denied") 126

/-- Runs the fields of a command. -/
def call : (fuel : Nat) → List Raw → Machine → Machine
  | 0, _, m => { m with stage := .endless }
  | _ + 1, [], m => m
  | fuel + 1, command :: arguments, m =>
      match String.ofList command with
      | "eval" => runText fuel (Printing.spaced arguments) m
      | "exec" =>
          if arguments.isEmpty then m.answer 0
          else
            let m := call fuel arguments m
            if m.going then { m with stage := .leaving m.ending } else m
      | "command" => call fuel arguments m
      | name =>
          match builtin? m name arguments with
          | some m =>
              match m.sprung with
              | some action =>
                  { runText fuel action { m with sprung := none } with status := m.status }
              | none => m
          | none => launch fuel command arguments m

/-- A simple command. Settings without words stay, else they hold for the command. -/
def runSimple : (fuel : Nat) → List (Raw × Word) → List Word → List Redirect → Machine → Machine
  | 0, _, _, _, m => { m with stage := .endless }
  | fuel + 1, settings, words, redirects, m =>
      let before := m
      let (fields, m) := expandWords fuel words m
      if !m.going then m
      else
        let (m, ok) := redirectAll fuel redirects m
        let back (m : Machine) : Machine :=
          { m with
            output := before.output
            errors := before.errors
            input := if redirects.any (·.direction == .read) then before.input else m.input }
        if !ok then back m
        else if fields.isEmpty then
          let substitutes :=
            (settings.flatMap (·.2) ++ words.flatten).any (·.part matches .outcome _)
          let m := setAll fuel settings m
          back (if substitutes then m else m.answer 0)
        else
          let names := settings.map (·.1)
          let m' := setAll fuel settings m
          let m' := names.foldl Machine.share m'
          if !m'.going then back m'
          else
            let after := call fuel fields m'
            let after := if names.isEmpty then after else restore m after names
            if fields = ["exec".toList] then after else back after

/-- Repeats commands while a condition holds, or until it does; `last` is the status of the commands
so far. -/
def runLoop : (fuel : Nat) → (sense : Bool) → (condition body : Script) → (last : Nat) → Machine →
    Machine
  | 0, _, _, _, _, m => { m with stage := .endless }
  | fuel + 1, sense, condition, body, last, m =>
      let m := run fuel condition m
      if !m.going then (atLoop m).1
      else if (m.status = 0) = sense then
        match atLoop (run fuel body m) with
        | (m, true) => runLoop fuel sense condition body m.status m
        | (m, false) => m
      else m.answer last

def runEach : (fuel : Nat) → Raw → List Raw → Script → Machine → Machine
  | 0, _, _, _, m => { m with stage := .endless }
  | _ + 1, _, [], _, m => m
  | fuel + 1, name, value :: rest, body, m =>
      match atLoop (run fuel body (m.set name value)) with
      | (m, true) => runEach fuel name rest body m
      | (m, false) => m

def run : (fuel : Nat) → Script → Machine → Machine
  | 0, _, m => { m with stage := .endless }
  | fuel + 1, script, m =>
      if !m.going then m
      else
        match script with
        | .nothing => m
        | .simple settings words redirects => runSimple fuel settings words redirects m
        | .inTurn first second => run fuel second (run fuel first m)
        | .both first second =>
            let m := run fuel first m
            if m.status = 0 then run fuel second m else m
        | .either first second =>
            let m := run fuel first m
            if m.going && m.status ≠ 0 then run fuel second m else m
        | .inverted body =>
            let m := run fuel body m
            if m.going then m.answer (if m.status = 0 then 1 else 0) else m
        | .piped first second =>
            let inner := run fuel first
              { m with output := .pipe m.pipes, pipes := m.pipes + 1, written := [] }
            let text := inner.writtenTo (.pipe m.pipes)
            let others := inner.written.filter (·.1 ≠ .pipe m.pipes)
            let between := m.backFrom { inner with written := others ++ m.written }
            if !between.going then between
            else
              let last := run fuel second { between with input := text, time := m.time }
              let after := between.backFrom last
              { after with input := between.input, time := max between.time after.time }
        | .branch condition yes no =>
            let m := run fuel condition m
            if !m.going then m
            else if m.status = 0 then run fuel yes m
            else run fuel no (m.answer 0)
        | .loop sense condition body =>
            { runLoop fuel sense condition body 0 { m with loops := m.loops + 1 } with
              loops := m.loops }
        | .each name words body =>
            let (values, m) :=
              match words with
              | some words => expandWords fuel words m
              | none => (m.arguments, m)
            if !m.going then m
            else
              { runEach fuel name values body { m.answer 0 with loops := m.loops + 1 } with
                loops := m.loops }
        | .group body redirects =>
            let (inner, ok) := redirectAll fuel redirects m
            let after := if ok then run fuel body inner else inner
            { after with
              output := m.output
              errors := m.errors
              input := if redirects.any (·.direction == .read) then m.input else after.input }
        | .apart body redirects =>
            let (inner, ok) := redirectAll fuel redirects m
            let after := if ok then run fuel body inner else inner
            let back := m.backFrom after
            if redirects.any (·.direction == .read) then { back with input := m.input } else back
        | .beside body =>
            let after := m.backFrom (run fuel body { m with input := [] })
            { after with
              input := m.input
              time := m.time
              held := max after.held after.time
              status := 0 }

end

end ContractReview.Shell
