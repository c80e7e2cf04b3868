import ContractReview.Text.Printable

/-!
A text between quotes, as diagnostics show it: apostrophes around it unless it holds an apostrophe
and no quotation mark; backslashes before what would end it, and codes for what cannot be seen.
-/

namespace ContractReview.Text

def hexDigits : Nat → Nat → List Char
  | 0, _ => []
  | width + 1, n => hexDigits width (n / 16) ++ [Nat.digitChar (n % 16)]

/-- Two, four or eight hexadecimal digits, the fewest that hold the code point. -/
def codeEscape (n : Nat) : List Char :=
  if n < 0x100 then '\\' :: 'x' :: hexDigits 2 n
  else if n < 0x10000 then '\\' :: 'u' :: hexDigits 4 n
  else '\\' :: 'U' :: hexDigits 8 n

def escapeIn (quote c : Char) : List Char :=
  if c = quote ∨ c = '\\' then ['\\', c]
  else if c = '\n' then ['\\', 'n']
  else if c = '\r' then ['\\', 'r']
  else if c = '\t' then ['\\', 't']
  else if isPrintable c then [c]
  else codeEscape c.toNat

def quoteFor (cs : List Char) : Char :=
  if cs.contains '\'' && !cs.contains '"' then '"' else '\''

def quotedChars (cs : List Char) : List Char :=
  let quote := quoteFor cs
  quote :: cs.flatMap (escapeIn quote) ++ [quote]

def quoted (s : String) : String := String.ofList (quotedChars s.toList)

example : quotedChars "it's".toList = "\"it's\"".toList := by decide
example : quotedChars "a\n\x00".toList = "'a\\n\\x00'".toList := by decide

end ContractReview.Text
