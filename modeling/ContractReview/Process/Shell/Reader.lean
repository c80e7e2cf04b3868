import ContractReview.Process.Shell.Script

/-!
How the host's shell reads scripts: words, tokens, and commands. Fuel is the length of what is left,
and every rule that is tried again has taken a character or a token.
-/

namespace ContractReview.Shell

/-- Why a script cannot be read. -/
inductive Misspelling
  | openQuote
  | loopName
  | unexpected (found : String) (expected : Option String)
deriving DecidableEq, Repr

def Misspelling.text : Misspelling → String
  | .openQuote => "Syntax error: Unterminated quoted string"
  | .loopName => "Syntax error: Bad for loop variable"
  | .unexpected found expected =>
      "Syntax error: " ++ found ++ " unexpected" ++
        match expected with
        | some token => " (expecting \"" ++ token ++ "\")"
        | none => ""

abbrev Reading := Except Misspelling

/-! ## Words -/

/-- A text up to the bracket that closes it, and what follows. Brackets in quotes do not count. -/
def enclosed (opening closing : Char) : (depth : Nat) → (quote : Option Char) → Raw →
    Option (Raw × Raw)
  | _, _, [] => none
  | depth, quote, '\\' :: c :: rest =>
      if quote = some '\'' then
        (enclosed opening closing depth (if c = '\'' then none else quote) rest).map
          fun (inner, after) => ('\\' :: c :: inner, after)
      else
        (enclosed opening closing depth quote rest).map
          fun (inner, after) => ('\\' :: c :: inner, after)
  | depth, some quote, c :: rest =>
      (enclosed opening closing depth (if c = quote then none else some quote) rest).map
        fun (inner, after) => (c :: inner, after)
  | depth, none, c :: rest =>
      if c = closing then
        match depth with
        | 0 => some ([], rest)
        | depth + 1 =>
            (enclosed opening closing depth none rest).map fun (inner, after) => (c :: inner, after)
      else
        let depth := if c = opening then depth + 1 else depth
        let quote := if c = '\'' ∨ c = '"' then some c else none
        (enclosed opening closing depth quote rest).map fun (inner, after) => (c :: inner, after)

/-- A text up to the grave accent that closes it, and what follows. -/
def graved : Raw → Option (Raw × Raw)
  | [] => none
  | '\\' :: c :: rest =>
      (graved rest).map fun (inner, after) =>
        (if c = '\x60' ∨ c = '\\' ∨ c = '$' then (c :: inner, after)
         else ('\\' :: c :: inner, after))
  | c :: rest =>
      if c = '\x60' then some ([], rest)
      else (graved rest).map fun (inner, after) => (c :: inner, after)

/-- Doubled parentheses hold a sum. -/
def inParentheses (inner : Raw) : Part :=
  match inner with
  | '(' :: rest =>
      if rest.getLast? = some ')' then .sum rest.dropLast else .outcome inner
  | _ => .outcome inner

/-- What a dollar sign begins, and what follows it; none where it stands for itself. -/
def dollar : Raw → Reading (Option (Part × Raw))
  | '(' :: rest =>
      match enclosed '(' ')' 0 none rest with
      | some (inner, after) => .ok (some (inParentheses inner, after))
      | none => .error (.unexpected "end of file" (some ")"))
  | '\x7b' :: rest =>
      match enclosed '\x7b' '\x7d' 0 none rest with
      | some (inner, after) => .ok (some (.value inner, after))
      | none => .error (.unexpected "end of file" (some "\x7d"))
  | c :: rest =>
      if isNameStart c then
        .ok (some (.value (c :: rest.takeWhile isNameChar), rest.dropWhile isNameChar))
      else if c.isDigit || "@*#?$!-".toList.contains c then .ok (some (.value [c], rest))
      else .ok none
  | [] => .ok none

/-- A word with one more character. -/
def addChar (word : Word) (c : Char) (quoted : Bool) : Word :=
  match word with
  | ⟨.chars text, q⟩ :: rest =>
      if q = quoted then ⟨.chars (text ++ [c]), q⟩ :: rest
      else ⟨.chars [c], quoted⟩ :: word
  | _ => ⟨.chars [c], quoted⟩ :: word

def endsWord (c : Char) : Bool := " \t\n;&|<>()".toList.contains c

/-- A word and what follows it; the pieces so far stand last first. With `whole` the text is one
word to its end. -/
def wordFrom (whole : Bool) : (fuel : Nat) → (quoted : Bool) → Word → Raw → Reading (Word × Raw)
  | 0, _, word, rest => .ok (word.reverse, rest)
  | _ + 1, quoted, word, [] =>
      if quoted && !whole then .error .openQuote else .ok (word.reverse, [])
  | fuel + 1, quoted, word, c :: rest =>
      if c = '\\' then
        match rest with
        | [] => .ok ((addChar word c quoted).reverse, [])
        | d :: rest =>
            if d = '\n' then wordFrom whole fuel quoted word rest
            else if quoted && !("$\x60\"\\\x7d".toList.contains d) then
              wordFrom whole fuel quoted (addChar (addChar word c true) d true) rest
            else wordFrom whole fuel quoted (addChar word d true) rest
      else if c = '\'' && !quoted then
        if rest.contains '\'' then
          wordFrom whole fuel quoted
            (⟨.chars (rest.takeWhile (· ≠ '\'')), true⟩ :: word)
            ((rest.dropWhile (· ≠ '\'')).drop 1)
        else .error .openQuote
      else if c = '"' then wordFrom whole fuel (!quoted) (⟨.chars [], true⟩ :: word) rest
      else if c = '\x60' then
        match graved rest with
        | some (inner, after) => wordFrom whole fuel quoted (⟨.outcome inner, quoted⟩ :: word) after
        | none => .error .openQuote
      else if c = '$' then
        match dollar rest with
        | .error why => .error why
        | .ok (some (part, after)) => wordFrom whole fuel quoted (⟨part, quoted⟩ :: word) after
        | .ok none => wordFrom whole fuel quoted (addChar word c quoted) rest
      else if endsWord c && !quoted && !whole then .ok (word.reverse, c :: rest)
      else wordFrom whole fuel quoted (addChar word c quoted) rest

/-- A text that is one word as it stands. -/
def wholeWord (quoted : Bool) (text : Raw) : Reading Word :=
  (wordFrom true (text.length + 1) quoted [] text).map (·.1)

/-! ## Tokens -/

inductive Token
  | word (word : Word)
  | mark (text : String)
  | line
  | redirect (channel : Nat) (direction : Direction)
deriving DecidableEq, Repr

def number (digits : Raw) : Nat := digits.foldl (fun n c => n * 10 + (c.toNat - 48)) 0

/-- The marks between commands; the longer ones are tried first. -/
def marks : List String := ["&&", "||", ";;", ";", "&", "|", "(", ")"]

def directions : List (String × Direction × Nat) :=
  [(">>", .append, 1), (">&", .join, 1), ("<&", .join, 0), (">|", .write, 1), (">", .write, 1),
    ("<", .read, 0)]

def mark? (cs : Raw) : Option (Token × Raw) :=
  marks.findSome? fun m =>
    if m.toList.isPrefixOf cs then some (.mark m, cs.drop m.length) else none

/-- A redirection, with the channel that may stand in front of it. -/
def redirect? (cs : Raw) : Option (Token × Raw) :=
  let digits := cs.takeWhile Char.isDigit
  let rest := cs.drop digits.length
  directions.findSome? fun (m, direction, channel) =>
    if m.toList.isPrefixOf rest then
      some (.redirect (if digits.isEmpty then channel else number digits) direction,
        rest.drop m.length)
    else none

def tokens : (fuel : Nat) → Raw → Reading (List Token)
  | 0, _ | _ + 1, [] => .ok []
  | fuel + 1, c :: rest =>
      if c = ' ' ∨ c = '\t' then tokens fuel rest
      else if c = '#' then tokens fuel (rest.dropWhile (· ≠ '\n'))
      else if c = '\n' then (tokens fuel rest).map (.line :: ·)
      else
        match (redirect? (c :: rest)).or (mark? (c :: rest)) with
        | some (token, after) => (tokens fuel after).map (token :: ·)
        | none =>
            match wordFrom false (rest.length + 2) false [] (c :: rest) with
            | .error why => .error why
            | .ok (word, after) => (tokens fuel after).map (.word word :: ·)

/-! ## Commands -/

/-- The words that only stand inside commands, or end them. -/
def closers : List String := ["then", "elif", "else", "fi", "do", "done", "\x7d", "in"]

def openers : List String := ["if", "while", "until", "for", "\x7b", "!"]

/-- The text of a word that is written without quotes and without anything to be put in. -/
def plain? : Token → Option String
  | .word [⟨.chars text, false⟩] => some (String.ofList text)
  | _ => none

def reserved? (token : Token) : Option String :=
  (plain? token).filter fun text => (closers ++ openers).contains text

def Token.shown (token : Token) : String :=
  match token, reserved? token with
  | _, some text => "\"" ++ text ++ "\""
  | .word _, none => "word"
  | .mark text, none => "\"" ++ text ++ "\""
  | .line, none => "newline"
  | .redirect .., none => "redirection"

def unexpected (tokens : List Token) (expected : Option String := none) : Misspelling :=
  match tokens with
  | [] => .unexpected "end of file" expected
  | token :: _ => .unexpected token.shown expected

/-- What follows a reserved word that has to come now. -/
def expect (text : String) (tokens : List Token) : Reading (List Token) :=
  match tokens with
  | token :: rest =>
      if plain? token = some text ∨ token = .mark text then .ok rest
      else .error (unexpected tokens (some text))
  | [] => .error (unexpected [] (some text))

def skipLines (tokens : List Token) : List Token := tokens.dropWhile (· = .line)

/-- A setting of a variable in front of a command. -/
def setting? : Word → Option (Raw × Word)
  | ⟨.chars text, false⟩ :: rest =>
      let name := text.takeWhile (· ≠ '=')
      match text.drop name.length with
      | _ :: value =>
          if isName name then
            some (name, if value.isEmpty then rest else ⟨.chars value, false⟩ :: rest)
          else none
      | [] => none
  | _ => none

/-- A command of words, settings in front and redirections anywhere. -/
def simpleFrom (settings : List (Raw × Word)) (words : List Word) (redirects : List Redirect) :
    List Token → Reading (Script × List Token)
  | .redirect channel direction :: .word goal :: rest =>
      simpleFrom settings words (redirects ++ [⟨channel, direction, goal⟩]) rest
  | .redirect _ _ :: rest => .error (unexpected rest)
  | .word word :: rest =>
      match if words.isEmpty then setting? word else none with
      | some setting => simpleFrom (settings ++ [setting]) words redirects rest
      | none => simpleFrom settings (words ++ [word]) redirects rest
  | rest => .ok (.simple settings words redirects, rest)

def redirectsFrom (redirects : List Redirect) : List Token → List Redirect × List Token
  | .redirect channel direction :: .word goal :: rest =>
      redirectsFrom (redirects ++ [⟨channel, direction, goal⟩]) rest
  | rest => (redirects, rest)

/-- The words of a loop over words, to the end of the line. -/
def loopWords (words : List Word) : List Token → Reading (List Word × List Token)
  | .word word :: rest => loopWords (words ++ [word]) rest
  | .mark ";" :: rest | .line :: rest => .ok (words, rest)
  | rest => .error (unexpected rest)

mutual

/-- Commands in turn, until a word that closes them. -/
def listFrom : (fuel : Nat) → List Token → Reading (Script × List Token)
  | 0, rest => .error (unexpected rest)
  | fuel + 1, tokens => do
      let tokens := skipLines tokens
      match tokens with
      | [] => return (.nothing, [])
      | token :: _ =>
          if token = .mark ")" ∨ ((plain? token).any closers.contains) then
            return (.nothing, tokens)
          let (first, rest) ← chainFrom fuel tokens
          match rest with
          | .mark ";" :: rest | .line :: rest =>
              let (others, rest) ← listFrom fuel rest
              return (.inTurn first others, rest)
          | .mark "&" :: rest =>
              let (others, rest) ← listFrom fuel rest
              return (.inTurn (.beside first) others, rest)
          | _ => return (first, rest)

/-- Commands of which each hangs on how the one before it went. -/
def chainFrom : (fuel : Nat) → List Token → Reading (Script × List Token)
  | 0, rest => .error (unexpected rest)
  | fuel + 1, tokens => do
      let (first, rest) ← pipelineFrom fuel tokens
      chainOn fuel first rest

def chainOn : (fuel : Nat) → Script → List Token → Reading (Script × List Token)
  | 0, _, rest => .error (unexpected rest)
  | fuel + 1, first, tokens =>
      match tokens with
      | .mark "&&" :: rest => do
          let (second, rest) ← pipelineFrom fuel (skipLines rest)
          chainOn fuel (.both first second) rest
      | .mark "||" :: rest => do
          let (second, rest) ← pipelineFrom fuel (skipLines rest)
          chainOn fuel (.either first second) rest
      | rest => .ok (first, rest)

def pipelineFrom : (fuel : Nat) → List Token → Reading (Script × List Token)
  | 0, rest => .error (unexpected rest)
  | fuel + 1, tokens => do
      match tokens with
      | .word [⟨.chars ['!'], false⟩] :: rest =>
          let (body, rest) ← pipelineFrom fuel rest
          return (.inverted body, rest)
      | _ =>
          let (first, rest) ← commandFrom fuel tokens
          match rest with
          | .mark "|" :: rest =>
              let (second, rest) ← pipelineFrom fuel (skipLines rest)
              return (.piped first second, rest)
          | _ => return (first, rest)

/-- What follows a condition: the commands for either outcome, to the closing word. -/
def branchFrom : (fuel : Nat) → List Token → Reading (Script × List Token)
  | 0, rest => .error (unexpected rest)
  | fuel + 1, tokens => do
      let (condition, rest) ← listFrom fuel tokens
      let (yes, rest) ← listFrom fuel (← expect "then" rest)
      match rest with
      | token :: rest' =>
          if plain? token = some "elif" then
            let (no, rest) ← branchFrom fuel rest'
            return (.branch condition yes no, rest)
          else if plain? token = some "else" then
            let (no, rest) ← listFrom fuel rest'
            return (.branch condition yes no, ← expect "fi" rest)
          else return (.branch condition yes .nothing, ← expect "fi" rest)
      | [] => throw (unexpected [] (some "fi"))

def commandFrom : (fuel : Nat) → List Token → Reading (Script × List Token)
  | 0, rest => .error (unexpected rest)
  | fuel + 1, tokens => do
      match tokens with
      | [] => throw (unexpected [])
      | .mark "(" :: rest =>
          let (body, rest) ← listFrom fuel rest
          let (redirects, rest) := redirectsFrom [] (← expect ")" rest)
          return (.apart body redirects, rest)
      | .mark _ :: _ | .line :: _ => throw (unexpected tokens)
      | token :: rest =>
          match reserved? token with
          | none => simpleFrom [] [] [] tokens
          | some word =>
              if word = "\x7b" then
                let (body, rest) ← listFrom fuel rest
                let (redirects, rest) := redirectsFrom [] (← expect "\x7d" rest)
                return (.group body redirects, rest)
              else if word = "if" then
                let (body, rest) ← branchFrom fuel rest
                let (redirects, rest) := redirectsFrom [] rest
                return (.group body redirects, rest)
              else if word = "while" ∨ word = "until" then
                let (condition, rest) ← listFrom fuel rest
                let (body, rest) ← listFrom fuel (← expect "do" rest)
                let (redirects, rest) := redirectsFrom [] (← expect "done" rest)
                return (.group (.loop (word = "while") condition body) redirects, rest)
              else if word = "for" then
                match rest with
                | .word [⟨.chars name, false⟩] :: rest =>
                    let rest := skipLines rest
                    let (words, rest) ←
                      match rest with
                      | token :: after =>
                          if plain? token = some "in" then
                            (loopWords [] after).map fun (words, rest) => (some words, rest)
                          else pure (none, if token = .mark ";" then after else rest)
                      | [] => pure (none, rest)
                    let (body, rest) ← listFrom fuel (← expect "do" (skipLines rest))
                    let (redirects, rest) := redirectsFrom [] (← expect "done" rest)
                    return (.group (.each name words body) redirects, rest)
                | _ => throw .loopName
              else throw (unexpected tokens)

end

/-- A script as its text says. -/
def Script.read (text : Raw) : Reading Script := do
  let tokens ← tokens (text.length + 1) text
  match ← listFrom (8 * tokens.length + 8) tokens with
  | (script, []) => return script
  | (_, rest) => throw (unexpected rest)

end ContractReview.Shell
