/-!
Text from octets that should be UTF-8. Octets that are not are replaced: each longest start of a
character that breaks off, and each octet that starts none, becomes one replacement character.
-/

namespace ContractReview.Text

/-- What the octets after a first one have to be: how many, and the range of the next. -/
structure Sequel where
  count : Nat
  low : Nat
  high : Nat

/-- What follows a first octet above the seven bit ones; none for an octet that starts nothing. -/
def sequel? (first : Nat) : Option (Sequel × Nat) :=
  if 0xC2 ≤ first ∧ first ≤ 0xDF then some (⟨1, 0x80, 0xBF⟩, first - 0xC0)
  else if first = 0xE0 then some (⟨2, 0xA0, 0xBF⟩, 0)
  else if first = 0xED then some (⟨2, 0x80, 0x9F⟩, 0xD)
  else if 0xE1 ≤ first ∧ first ≤ 0xEF then some (⟨2, 0x80, 0xBF⟩, first - 0xE0)
  else if first = 0xF0 then some (⟨3, 0x90, 0xBF⟩, 0)
  else if 0xF1 ≤ first ∧ first ≤ 0xF3 then some (⟨3, 0x80, 0xBF⟩, first - 0xF0)
  else if first = 0xF4 then some (⟨3, 0x80, 0x8F⟩, 4)
  else none

/-- How reading stands: between characters, or within one. -/
inductive Midway
  | between
  | within (sequel : Sequel) (code : Nat)

def replacement : Char := '\uFFFD'

/-- The state after an octet that is read from between characters, and what is written. -/
def openWith (octet : Nat) : Midway × List Char :=
  if octet < 0x80 then (.between, [Char.ofNat octet])
  else
    match sequel? octet with
    | none => (.between, [replacement])
    | some (sequel, code) => (.within sequel code, [])

def takeOctet : Midway → Nat → Midway × List Char
  | .between, octet => openWith octet
  | .within sequel code, octet =>
      if sequel.low ≤ octet ∧ octet ≤ sequel.high then
        let code := code * 64 + (octet - 0x80)
        if sequel.count ≤ 1 then (.between, [Char.ofNat code])
        else (.within ⟨sequel.count - 1, 0x80, 0xBF⟩ code, [])
      else
        let next := openWith octet
        (next.1, replacement :: next.2)

def decodeFrom : Midway → List Nat → List Char
  | .between, [] => []
  | .within _ _, [] => [replacement]
  | state, octet :: rest =>
      let next := takeOctet state octet
      next.2 ++ decodeFrom next.1 rest

def decode (octets : List Nat) : String := String.ofList (decodeFrom .between octets)

/-- What is wrong with octets that are not UTF-8: where, up to where, and how. -/
inductive Malformed
  | start (at' : Nat) (octet : Nat)
  | continuation (at' : Nat) (octet : Nat) (width : Nat)
  | cutOff (at' : Nat) (octet : Nat) (width : Nat)
deriving DecidableEq, Repr

/-- The fault as it is told when the octets arrive before their end is known: what is cut off is
counted from its own start. -/
def Malformed.streamed : Malformed → Malformed
  | .cutOff _ octet width => .cutOff 0 octet width
  | why => why

/-- The text of octets that are all UTF-8; `opened` is the place, the octet and the length so far of
the character that is being read. -/
def decodeStrict (place : Nat) (opened : Nat × Nat × Nat) :
    Midway → List Nat → Except Malformed (List Char)
  | .between, [] => .ok []
  | .within _ _, [] => .error (.cutOff opened.1 opened.2.1 opened.2.2)
  | .between, octet :: rest =>
      if octet < 0x80 then
        (decodeStrict (place + 1) opened .between rest).map (Char.ofNat octet :: ·)
      else
        match sequel? octet with
        | none => .error (.start place octet)
        | some (sequel, code) =>
            decodeStrict (place + 1) (place, octet, 1) (.within sequel code) rest
  | .within sequel code, octet :: rest =>
      if sequel.low ≤ octet ∧ octet ≤ sequel.high then
        let code := code * 64 + (octet - 0x80)
        if sequel.count ≤ 1 then
          (decodeStrict (place + 1) opened .between rest).map (Char.ofNat code :: ·)
        else
          decodeStrict (place + 1) (opened.1, opened.2.1, opened.2.2 + 1)
            (.within ⟨sequel.count - 1, 0x80, 0xBF⟩ code) rest
      else .error (.continuation opened.1 opened.2.1 opened.2.2)

def decode? (octets : List Nat) : Except Malformed String :=
  (decodeStrict 0 (0, 0, 0) .between octets).map String.ofList

def octetsOf (s : String) : List Nat := s.toUTF8.toList.map UInt8.toNat

example : decodeFrom .between [0xED, 0xA0, 0x80, 0x61] = ['\uFFFD', '\uFFFD', '\uFFFD', 'a'] := by
  decide
example : decodeFrom .between [0xF0, 0x9F, 0x98, 0x20, 0xE2, 0x82] = ['\uFFFD', ' ', '\uFFFD'] := by
  decide

end ContractReview.Text
