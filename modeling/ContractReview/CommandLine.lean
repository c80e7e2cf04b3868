import ContractReview.Text.Search

/-!
The command line: a command, its options in any place, and its arguments.
-/

namespace ContractReview

open Text

inductive Command
  | analyze (files : List String) (platform : Option String) (useModels useFallback : Bool)
  | health
  | validate (platform : String)
  | platforms
deriving DecidableEq, Repr

namespace CommandLine

/-- What a command line asks for: a command, or help. -/
inductive Invocation
  | run (command : Command)
  | help
deriving DecidableEq, Repr

structure Choice where
  long : String
  short : Option Char := none
  takesValue : Bool := false
deriving DecidableEq, Repr

/-- The options in their order, a flag with an empty value, and the arguments. -/
structure Words where
  options : List (String × String) := []
  arguments : List String := []
deriving DecidableEq, Repr

namespace Words

def option (w : Words) (name value : String) : Words :=
  { w with options := w.options ++ [(name, value)] }

def argument (w : Words) (text : String) : Words := { w with arguments := w.arguments ++ [text] }

def has (w : Words) (name : String) : Bool := w.options.any (·.1 = name)

/-- The last value that an option is given. -/
def value? (w : Words) (name : String) : Option String :=
  ((w.options.filter (·.1 = name)).getLast?).map (·.2)

end Words

/-- What one word is: an argument, or an option with its value or still without it. -/
inductive Word
  | argument
  | option (name value : String)
  | awaiting (name : String)
deriving DecidableEq, Repr

/-- A long option, with its value if there is an equals sign. -/
def longWord? (choices : List Choice) (text : String) : Option Word :=
  let (name, value) :=
    match cut? ['='] text.toList with
    | some (name, value) => (String.ofList name, some (String.ofList value))
    | none => (text, none)
  match choices.find? (·.long = name), value with
  | none, _ => none
  | some choice, none =>
      some (if choice.takesValue then .awaiting choice.long else .option choice.long "")
  | some choice, some value =>
      if choice.takesValue then some (.option choice.long value) else none

/-- A short option, with the rest of the word as its value. -/
def shortWord? (choices : List Choice) (letter : Char) (rest : List Char) : Option Word :=
  match choices.find? fun c => c.short = some letter && c.takesValue with
  | none => none
  | some choice =>
      some (if rest.isEmpty then .awaiting choice.long
        else .option choice.long (String.ofList rest))

/-- What a word is; an unknown option is nothing. -/
def word? (choices : List Choice) (text : String) : Option Word :=
  match text.toList with
  | '-' :: '-' :: _ => longWord? choices text
  | '-' :: letter :: rest => shortWord? choices letter rest
  | _ => some .argument

/-- Reads words; `awaited` is the option that the next word is the value of. Two dashes end the
options. -/
def wordsFrom (choices : List Choice) :
    (awaited : Option String) → Words → List String → Option Words
  | none, w, [] => some w
  | some _, _, [] => none
  | some name, w, text :: rest => wordsFrom choices none (w.option name text) rest
  | none, w, text :: rest =>
      if text = "--" then some { w with arguments := w.arguments ++ rest }
      else
        match word? choices text with
        | none => none
        | some .argument => wordsFrom choices none (w.argument text) rest
        | some (.option name value) => wordsFrom choices none (w.option name value) rest
        | some (.awaiting name) => wordsFrom choices (some name) w rest

def helpChoice : Choice := { long := "--help" }

def analyzeChoices : List Choice :=
  [{ long := "--platform", short := some 'p', takesValue := true }, { long := "--no-ai" },
   { long := "--no-fallback" }, helpChoice]

def analyze? (w : Words) : Option Command :=
  if w.arguments.isEmpty then none
  else some (.analyze w.arguments (w.value? "--platform") (!w.has "--no-ai")
    (!w.has "--no-fallback"))

/-- A command that takes no arguments. -/
def bare? (command : Command) (w : Words) : Option Command :=
  if w.arguments.isEmpty then some command else none

def validate? (w : Words) : Option Command :=
  match w.arguments with
  | [platform] => some (.validate platform)
  | _ => none

/-- The commands: their options, and what their words come to. -/
def commands : List (String × List Choice × (Words → Option Command)) :=
  [("analyze", analyzeChoices, analyze?), ("health", [helpChoice], bare? .health),
   ("validate-analyzer", [helpChoice], validate?), ("platforms", [helpChoice], bare? .platforms)]

/-- The words behind the name of a command. Help goes before missing arguments. -/
def behind (name : String) (rest : List String) : Option Invocation :=
  match commands.lookup name with
  | none => none
  | some (choices, read) =>
      match wordsFrom choices none {} rest with
      | none => none
      | some w => if w.has helpChoice.long then some .help else (read w).map .run

/-- Reads a whole command line; a wrong one is nothing. -/
def parse (words : List String) (helped : Bool := false) : Option Invocation :=
  match words with
  | [] => if helped then some .help else none
  | "--" :: rest =>
      match rest with
      | [] => if helped then some .help else none
      | name :: rest => if helped then some .help else behind name rest
  | text :: rest =>
      match word? [helpChoice] text with
      | none => none
      | some .argument => if helped then some .help else behind text rest
      | some _ => parse rest true

example : parse ["analyze", "a.sol", "-psui", "--", "--no-ai"] =
    some (.run (.analyze ["a.sol", "--no-ai"] (some "sui") true true)) := by decide +kernel
example : parse ["analyze", "--no-ai"] = none ∧ parse ["health", "x"] = none ∧
    parse ["health", "x", "--help"] = some .help := by decide +kernel

end CommandLine

end ContractReview
