import ContractReview.Text.Word

/-!
Search patterns over text. A pattern tries its ways in order of preference and keeps the first that
lets the rest succeed: a repetition prefers more, an alternative its first branch.
-/

namespace ContractReview.Text

/-- A place in a text: the character before it, if any, and the text behind it. -/
structure Cursor where
  last? : Option Char
  rest : List Char
  position : Nat
deriving DecidableEq

def Cursor.start (text : List Char) : Cursor := ⟨none, text, 0⟩

/-- The place behind the next character, which is `c`, with `rest` behind it. -/
def Cursor.past (here : Cursor) (c : Char) (rest : List Char) : Cursor :=
  ⟨some c, rest, here.position + 1⟩

/-- A word character on one side only. -/
def Cursor.atBoundary (here : Cursor) : Bool :=
  here.last?.any isWord != here.rest.head?.any isWord

inductive Pattern
  | nothing
  | one (accepts : Char → Bool)
  | boundary
  | both (first second : Pattern)
  | either (first second : Pattern)
  /-- At least `least` characters of a kind, as many as possible. -/
  | many (least : Nat) (accepts : Char → Bool)
  /-- Keeps the text that the pattern takes. -/
  | group (inner : Pattern)

/-- Where a match ends, and the texts kept on the way, the last one first. -/
structure Reach where
  stop : Cursor
  kept : List (List Char)

namespace Pattern

/-- Takes characters while they are accepted, then gives them back one by one until `next`
succeeds; the first `least` stay taken. -/
def runMany (accepts : Char → Bool) (next : Cursor → Option Reach) :
    (least : Nat) → (here : Cursor) → (rest : List Char) → Option Reach
  | 0, here, [] => next here
  | _ + 1, _, [] => none
  | least, here, c :: rest =>
      if accepts c then
        match runMany accepts next (least - 1) (here.past c rest) rest with
        | some reach => some reach
        | none => if least = 0 then next here else none
      else if least = 0 then next here
      else none

/-- The preferred way of the pattern from `here` after which `next` succeeds. -/
def run : Pattern → (here : Cursor) → (kept : List (List Char)) →
    (next : Cursor → List (List Char) → Option Reach) → Option Reach
  | .nothing, here, kept, next => next here kept
  | .one accepts, here, kept, next =>
      match here.rest with
      | [] => none
      | c :: rest => if accepts c then next (here.past c rest) kept else none
  | .boundary, here, kept, next => if here.atBoundary then next here kept else none
  | .both first second, here, kept, next =>
      first.run here kept fun there kept => second.run there kept next
  | .either first second, here, kept, next =>
      match first.run here kept next with
      | some reach => some reach
      | none => second.run here kept next
  | .many least accepts, here, kept, next =>
      runMany accepts (fun there => next there kept) least here here.rest
  | .group inner, here, kept, next =>
      inner.run here kept fun there kept =>
        next there (here.rest.take (there.position - here.position) :: kept)

/-- Where the pattern ends when it starts at `here`. -/
def reach? (p : Pattern) (here : Cursor) : Option Reach :=
  p.run here [] fun there kept => some ⟨there, kept⟩

/-- A matched stretch of text, with the texts that groups kept, in the order they closed. -/
structure Match where
  start : Nat
  stop : Nat
  kept : List (List Char)
deriving DecidableEq

/-- All matches from the place on, from left to right, none starting before `free`. -/
def matchesFrom (p : Pattern) (free : Nat) (here : Cursor) : (rest : List Char) → List Match
  | [] => []
  | c :: rest =>
      let there := here.past c rest
      if here.position < free then matchesFrom p free there rest
      else
        match p.reach? here with
        | none => matchesFrom p free there rest
        | some found =>
            ⟨here.position, found.stop.position, found.kept.reverse⟩ ::
              matchesFrom p (max found.stop.position (here.position + 1)) there rest

/-- The matches of a pattern that takes at least one character. -/
def matchesIn (p : Pattern) (text : List Char) : List Match :=
  matchesFrom p 0 (Cursor.start text) text

/-- The first match from the place on. An empty one may stand behind the last character. -/
def firstFrom? (p : Pattern) (here : Cursor) (rest : List Char) : Option Match :=
  match p.reach? here with
  | some found => some ⟨here.position, found.stop.position, found.kept.reverse⟩
  | none =>
      match rest with
      | [] => none
      | c :: rest => firstFrom? p (here.past c rest) rest

def firstIn? (p : Pattern) (text : List Char) : Option Match :=
  firstFrom? p (Cursor.start text) text

def foundIn (p : Pattern) (text : List Char) : Bool := (p.firstIn? text).isSome

def inOrder : List Pattern → Pattern
  | [] => .nothing
  | [p] => p
  | p :: rest => .both p (inOrder rest)

def anyOf : List Pattern → Pattern
  | [] => .one fun _ => false
  | [p] => p
  | p :: rest => .either p (anyOf rest)

/-- Exactly these characters. -/
def literal (text : String) : Pattern := inOrder (text.toList.map fun c => .one (· = c))

def optional (p : Pattern) : Pattern := .either p .nothing

end Pattern

example : (Pattern.both (.many 1 isWord) (.literal "=")).firstIn? "a bc=d".toList =
    some ⟨2, 5, []⟩ := by decide +kernel
example : (Pattern.inOrder [.boundary, .literal "fun", .boundary]).firstIn? "funny fun".toList =
    some ⟨6, 9, []⟩ := by decide +kernel

end ContractReview.Text
