import ContractReview.Settings.Scalar

/-!
YAML documents of mappings and sequences, written as blocks or in brackets, with plain and quoted
scalars. A text that holds anything else, or more than one document, is no document at all.
-/

namespace ContractReview

/-- A document. The keys of a mapping are scalars. -/
inductive Yaml
  | scalar (value : Yaml.Scalar)
  | list (items : List Yaml)
  | map (entries : List (Yaml.Scalar × Yaml))

namespace Yaml

def null : Yaml := .scalar .null

mutual

def toJson : Yaml → Json
  | .scalar v => v.toJson
  | .list items => .arr (itemsToJson items)
  | .map entries => .obj (entriesToJson entries)

def itemsToJson : List Yaml → List Json
  | [] => []
  | v :: rest => toJson v :: itemsToJson rest

def entriesToJson : List (Scalar × Yaml) → List (String × Json)
  | [] => []
  | (key, v) :: rest => (key.fieldName, toJson v) :: entriesToJson rest

end

/-- Sets an entry: a known key keeps its place. -/
def insert (key : Scalar) (v : Yaml) : List (Scalar × Yaml) → List (Scalar × Yaml)
  | [] => [(key, v)]
  | (k, w) :: rest => if k = key then (k, v) :: rest else (k, w) :: insert key v rest

/-- Adds an entry whose key has to be a scalar. -/
def enter (entries : List (Scalar × Yaml)) (key value : Yaml) : Option (List (Scalar × Yaml)) :=
  match key with
  | .scalar key => some (insert key value entries)
  | _ => none

/-! ### Places in the text -/

/-- What is left of the text, and where that begins. -/
structure Place where
  rest : List Char
  line : Nat
  column : Nat
deriving DecidableEq

def isBreak (c : Char) : Bool :=
  c == '\n' || c == '\r' || c == '\u0085' || c == '\u2028' || c == '\u2029'

/-- The end of the text, white space, or the end of a line. -/
def isGap : List Char → Bool
  | [] => true
  | c :: _ => c == ' ' || c == '\t' || isBreak c

/-- Dashes or points that bound a document. -/
def isBoundary : List Char → Bool
  | '-' :: '-' :: '-' :: rest => isGap rest
  | '.' :: '.' :: '.' :: rest => isGap rest
  | _ => false

namespace Place

/-- Behind the next character. -/
def next (p : Place) : Place :=
  match p.rest with
  | [] => p
  | c :: rest => if isBreak c then ⟨rest, p.line + 1, 0⟩ else ⟨rest, p.line, p.column + 1⟩

def past (p : Place) (n : Nat) : Place := ⟨p.rest.drop n, p.line, p.column + n⟩

/-- The end of the document. -/
def atEnd (p : Place) : Bool := p.rest.isEmpty || (p.column == 0 && isBoundary p.rest)

/-- A mark that white space has to follow. -/
def atMark (p : Place) (mark : Char) : Bool :=
  match p.rest with
  | c :: rest => c == mark && isGap rest
  | [] => false

/-- The next token, over spaces, comments and ends of lines. -/
def tokenFrom (inComment : Bool) : List Char → (line column : Nat) → Place
  | [], line, column => ⟨[], line, column⟩
  | c :: rest, line, column =>
      if isBreak c then tokenFrom false rest (line + 1) 0
      else if inComment || c == '#' then tokenFrom true rest line (column + 1)
      else if c == ' ' then tokenFrom false rest line (column + 1)
      else ⟨c :: rest, line, column⟩

def token (p : Place) : Place := tokenFrom false p.rest p.line p.column

end Place

/-! ### Scalars -/

/-- A break in a scalar; the two separators stay what they are. -/
def foldedBreak (c : Char) : Char := if c == '\u2028' || c == '\u2029' then c else '\n'

/-- What a break and the breaks behind it leave of themselves in a scalar. -/
def folded (first : Char) (others : List Char) : List Char :=
  if foldedBreak first ≠ '\n' then foldedBreak first :: others
  else if others.isEmpty then [' ']
  else others

/-- Characters that end a plain scalar, of which `rest` follows. -/
def endsPlain (flow : Bool) (c : Char) (rest : List Char) : Bool :=
  isGap [c] ||
  (c == ':' && (isGap rest || (flow && rest.head?.any fun d => ",[]\x7b\x7d".toList.contains d))) ||
  (flow && ",?[]\x7b\x7d".toList.contains c)

def plainRun (flow : Bool) : List Char → List Char
  | [] => []
  | c :: rest => if endsPlain flow c rest then [] else c :: plainRun flow rest

/-- Breaks and the spaces before and after them; a boundary of the document ends the scalar. -/
def skipBreaks : (fuel : Nat) → Place → Option (List Char × Place)
  | 0, p => some ([], p)
  | fuel + 1, p =>
      if p.column == 0 && isBoundary p.rest then none
      else
        match p.rest with
        | c :: _ =>
            if c == ' ' then
              let q := p.past (p.rest.takeWhile (· = ' ')).length
              match q.rest with
              | d :: _ =>
                  if isBreak d then
                    (skipBreaks fuel q.next).map fun (others, r) => (foldedBreak d :: others, r)
                  else some ([], q)
              | [] => some ([], q)
            else if isBreak c then
              (skipBreaks fuel p.next).map fun (others, r) => (foldedBreak c :: others, r)
            else some ([], p)
        | [] => some ([], p)

/-- What stands between two runs of a plain scalar: spaces, or ends of lines. -/
def plainGap (p : Place) : List Char × Place :=
  let spaces := p.rest.takeWhile (· = ' ')
  let q := p.past spaces.length
  match q.rest with
  | c :: _ =>
      if isBreak c then
        match skipBreaks q.rest.length q.next with
        | some (others, r) => (folded c others, r)
        | none => ([], q.next.token)
      else (spaces, q)
  | [] => (spaces, q)

/-- The runs of a plain scalar. In a block it goes on only on lines that begin at `least`. -/
def plainFrom (flow : Bool) (least : Nat) : (fuel : Nat) → Place → List Char × Place
  | 0, p => ([], p)
  | fuel + 1, p =>
      let run := if p.rest.head? = some '#' then [] else plainRun flow p.rest
      if run.isEmpty then ([], p)
      else
        let gap := plainGap (p.past run.length)
        let q := gap.2
        if gap.1.isEmpty || q.rest.head? = some '#' || (!flow && q.column < least) then (run, q)
        else
          let more := plainFrom flow least fuel q
          if more.1.isEmpty then (run, more.2) else (run ++ gap.1 ++ more.1, more.2)

/-- Characters that a plain scalar may begin with. -/
def beginsPlain (flow : Bool) : List Char → Bool
  | [] => false
  | c :: rest =>
      !(isGap [c] || "-?:,[]\x7b\x7d#&*!|>'\"%@\x60".toList.contains c) ||
      (!isGap rest && (c == '-' || (!flow && (c == '?' || c == ':'))))

def escapes : List (Char × Char) :=
  [('0', '\x00'), ('a', '\x07'), ('b', '\x08'), ('t', '\t'), ('\t', '\t'), ('n', '\n'),
   ('v', '\x0b'), ('f', '\x0c'), ('r', '\r'), ('e', '\x1b'), (' ', ' '), ('"', '"'),
   ('\\', '\\'), ('/', '/'), ('N', '\u0085'), ('_', '\u00a0'), ('L', '\u2028'), ('P', '\u2029')]

/-- Escapes that give a code point, with the number of their digits. -/
def codeEscapes : List (Char × Nat) := [('x', 2), ('u', 4), ('U', 8)]

def codePoint? (digits : List Char) : Option Char :=
  if digits.all fun c => Scalar.digitOf c < 16 then
    let n := Scalar.inBase 16 digits
    if h : n.isValidChar then some (Char.ofNatAux n h) else none
  else none

/-- Breaks in a quoted scalar with the white space around them. -/
def quotedBreaks : (fuel : Nat) → Place → Option (List Char × Place)
  | 0, _ => none
  | fuel + 1, p =>
      if isBoundary p.rest then none
      else
        let q := p.past (p.rest.takeWhile fun c => c == ' ' || c == '\t').length
        match q.rest with
        | c :: _ =>
            if isBreak c then
              (quotedBreaks fuel q.next).map fun (others, r) => (foldedBreak c :: others, r)
            else some ([], q)
        | [] => some ([], q)

/-- The rest of a quoted scalar. -/
def quotedFrom (quote : Char) : (fuel : Nat) → Place → Option (List Char × Place)
  | 0, _ => none
  | fuel + 1, p =>
      let go (found : List Char) (q : Place) : Option (List Char × Place) :=
        (quotedFrom quote fuel q).map fun (more, r) => (found ++ more, r)
      match p.rest with
      | [] => none
      | c :: rest =>
          if c == ' ' || c == '\t' || isBreak c then
            let spaces := p.rest.takeWhile fun c => c == ' ' || c == '\t'
            let q := p.past spaces.length
            match q.rest with
            | [] => none
            | d :: _ =>
                if isBreak d then
                  match quotedBreaks fuel q.next with
                  | some (others, r) => go (folded d others) r
                  | none => none
                else go spaces q
          else if c == quote then
            if quote == '\'' && rest.head? = some '\'' then go ['\''] (p.past 2)
            else some ([], p.past 1)
          else if c == '\\' && quote == '"' then
            match rest with
            | [] => none
            | e :: after =>
                match escapes.lookup e, codeEscapes.lookup e with
                | some d, _ => go [d] (p.past 2)
                | none, some width =>
                    if after.length < width then none
                    else
                      match codePoint? (after.take width) with
                      | some d => go [d] (p.past (2 + width))
                      | none => none
                | none, none =>
                    if isBreak e then
                      match quotedBreaks fuel (p.past 1).next with
                      | some (others, r) => go others r
                      | none => none
                    else none
          else go [c] (p.past 1)

/-! ### Collections -/

/-- A node and the place behind it. -/
abbrev Read := Option (Yaml × Place)

/-- The key of an entry stands on one line, and a colon follows it there. -/
def isKey (start behind : Place) : Bool :=
  behind.rest.head? = some ':' && behind.line == start.line

mutual

/-- A scalar, or a collection in brackets. -/
def inline (flow : Bool) (least : Nat) : (fuel : Nat) → Place → Read
  | 0, _ => none
  | fuel + 1, p =>
      if p.atEnd then none
      else
        match p.rest with
        | [] => none
        | '[' :: _ => (listItems fuel (p.past 1).token).map fun (items, q) => (.list items, q)
        | '\x7b' :: _ => (mapEntries [] fuel (p.past 1).token).map fun (all, q) => (.map all, q)
        | '\'' :: _ =>
            (quotedFrom '\'' fuel (p.past 1)).map fun (cs, q) =>
              (.scalar (.text (String.ofList cs)), q)
        | '"' :: _ =>
            (quotedFrom '"' fuel (p.past 1)).map fun (cs, q) =>
              (.scalar (.text (String.ofList cs)), q)
        | cs =>
            if beginsPlain flow cs then
              let (text, q) := plainFrom flow least fuel p
              (Scalar.ofPlain? text).map fun v => (.scalar v, q)
            else none

/-- The value behind a colon in brackets, which may be missing. -/
def bracketValue (fuel : Nat) (p : Place) : Read :=
  match fuel with
  | 0 => none
  | fuel + 1 =>
      let q := (p.past 1).token
      match q.rest.head? with
      | some ',' | some ']' | some '\x7d' => some (null, q)
      | _ => (inline true 0 fuel q).map fun (v, r) => (v, r.token)

def listItems : (fuel : Nat) → Place → Option (List Yaml × Place)
  | 0, _ => none
  | fuel + 1, p =>
      if p.rest.head? = some ']' then some ([], p.past 1)
      else
        match inline true 0 fuel p with
        | none => none
        | some (first, q) =>
            let q := q.token
            let item :=
              if isKey p q then
                (bracketValue fuel q).bind fun (value, r) =>
                  (enter [] first value).map fun all => (Yaml.map all, r)
              else some (first, q)
            match item with
            | none => none
            | some (item, r) =>
                match r.rest.head? with
                | some ',' =>
                    (listItems fuel (r.past 1).token).map fun (items, s) => (item :: items, s)
                | some ']' => some ([item], r.past 1)
                | _ => none

def mapEntries (entries : List (Scalar × Yaml)) :
    (fuel : Nat) → Place → Option (List (Scalar × Yaml) × Place)
  | 0, _ => none
  | fuel + 1, p =>
      if p.rest.head? = some '\x7d' then some (entries, p.past 1)
      else
        match inline true 0 fuel p with
        | none => none
        | some (key, q) =>
            let q := q.token
            let value := if isKey p q then bracketValue fuel q else some (null, q)
            match value with
            | none => none
            | some (value, r) =>
                match enter entries key value, r.rest.head? with
                | some all, some ',' => mapEntries all fuel (r.past 1).token
                | some all, some '\x7d' => some (all, r.past 1)
                | _, _ => none

end

mutual

/-- A node of a block whose parent begins at column `parent`, if it has one. A fresh node begins
where a block may begin: at the start of a line or behind a dash. -/
def block (parent : Option Nat) (fresh : Bool) : (fuel : Nat) → Place → Read
  | 0, _ => none
  | fuel + 1, p =>
      if p.atMark '-' then if fresh then sequence false p.column fuel p else none
      else if p.atMark ':' then if fresh then mapping p.column [] null fuel p else none
      else
        match inline false ((parent.map (· + 1)).getD 0) fuel p with
        | none => none
        | some (v, q) =>
            let q := q.token
            if q.atMark ':' then
              if fresh && isKey p q then mapping p.column [] v fuel q else none
            else some (v, q)

/-- The items of a sequence at a column, from the dash on. Under a key a sequence may begin where
the key does. -/
def sequence (underKey : Bool) (column : Nat) : (fuel : Nat) → Place → Read
  | 0, _ => none
  | fuel + 1, p =>
      let q := (p.past 1).token
      let item :=
        if !q.atEnd && (q.line == p.line || column < q.column) then
          block (some column) true fuel q
        else some (null, q)
      match item with
      | none => none
      | some (item, r) =>
          if r.atEnd || r.column < column then some (.list [item], r)
          else if r.column == column then
            if r.atMark '-' then
              match sequence underKey column fuel r with
              | some (.list items, s) => some (.list (item :: items), s)
              | _ => none
            else if underKey then some (.list [item], r)
            else none
          else none

/-- The entries of a mapping at a column, from the colon behind a key on. -/
def mapping (column : Nat) (entries : List (Scalar × Yaml)) (key : Yaml) :
    (fuel : Nat) → Place → Read
  | 0, _ => none
  | fuel + 1, p =>
      let q := (p.past 1).token
      let value :=
        if q.atEnd then some (null, q)
        else if q.line == p.line then block (some column) false fuel q
        else if column < q.column then block (some column) true fuel q
        else if q.column == column && q.atMark '-' then sequence true column fuel q
        else some (null, q)
      match value with
      | none => none
      | some (value, r) =>
          match enter entries key value with
          | none => none
          | some entries =>
              if r.atEnd || r.column < column then some (.map entries, r)
              else if r.column == column then
                if r.atMark ':' then mapping column entries null fuel r
                else
                  match inline false (column + 1) fuel r with
                  | none => none
                  | some (next, s) =>
                      let s := s.token
                      if s.atMark ':' && isKey r s then mapping column entries next fuel s
                      else none
              else none

end

/-! ### Documents -/

def isAllowed (c : Char) : Bool :=
  let n := c.toNat
  n == 9 || n == 10 || n == 13 || (0x20 ≤ n && n ≤ 0x7E) || n == 0x85 ||
  (0xA0 ≤ n && n ≤ 0xFFFD) || 0x10000 ≤ n

/-- The end of the only document, which points may mark. -/
def isOver (p : Place) : Bool :=
  p.rest.isEmpty ||
  (p.column == 0 && "...".toList.isPrefixOf p.rest && (p.past 3).token.rest.isEmpty)

/-- The document behind the mark that may open it. -/
def document (p : Place) : Option Yaml :=
  let fuel := 8 * p.rest.length + 16
  let opened := p.column == 0 && "---".toList.isPrefixOf p.rest && isGap (p.rest.drop 3)
  let q := if opened then (p.past 3).token else p
  if isOver q then some null
  else
    (block none (!opened || q.line != p.line) fuel q).bind fun (v, r) =>
      if isOver r then some v else none

/-- The document that a text holds; an empty text holds nothing. -/
def read (text : String) : Option Yaml :=
  let cs := text.toList
  if cs.all isAllowed then
    document (Place.tokenFrom false (if cs.head? = some '\uFEFF' then cs.drop 1 else cs) 0 0)
  else none

end Yaml

end ContractReview
