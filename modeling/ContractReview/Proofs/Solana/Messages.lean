import ContractReview.Proofs.Extent
import ContractReview.Proofs.Json.Access
import ContractReview.Proofs.Json.Writer
import ContractReview.Proofs.Text.Lines
import ContractReview.Solana.Clippy

/-!
The messages of a stream. Each message of a compiler comes to one finding or one note, as long as
nothing but the newlines between them ends the lines of the stream.
-/

namespace ContractReview.Clippy

open Text

/-! ## Messages -/

def spanNames : Extent.Names := ⟨"line_start", "column_start", "line_end", "column_end"⟩

structure Span extends Extent where
  primary : Bool

/-- An object tells the span; a span without a mark is not primary. -/
structure Span.In (span : Span) (v : Json) : Prop where
  place : span.toExtent.In spanNames v
  primary : v.field "is_primary" = .bool span.primary ∨
    v.field "is_primary" = .null ∧ span.primary = false

structure Message where
  text : String
  level : String
  code? : Option String
  spans : List Span

/-- The code of a message, which may have none. -/
inductive CodeIn : Option String → Json → Prop
  | none : CodeIn none .null
  | some {code : String} {v : Json} :
      v.kind = .dict → v.field "code" = .str code → CodeIn (some code) v

structure Message.In (m : Message) (v : Json) : Prop where
  object : v.kind = .dict
  text : v.field "message" = .str m.text
  level : v.field "level" = .str m.level
  code : CodeIn m.code? (v.field "code")
  spans : ∃ items, v.field "spans" = .arr items ∧ List.Forall₂ Span.In m.spans items

namespace Message

def code (m : Message) : Json := Json.ofOption .str m.code?

/-- The type of the finding: a code that is there. -/
def label (m : Message) : String := (m.code?.filter (· ≠ "")).getD "clippy-warning"

def isUnresolved (m : Message) : Bool := m.code?.any (· ∈ unresolvedImports)

/-- The first primary span, else the first of all. -/
def span? (m : Message) : Option Span := (m.spans.find? (·.primary)).or m.spans.head?

def found (platform file : String) (m : Message) (span : Span) : Finding :=
  Finding.create platform m.label (Severity.ofLabel levels (.str m.level))
    ("Clippy: " ++ strip m.text) (strip m.text) (span.location file) (recommendation m.code)
    confidence .static (.obj [("clippy_code", m.code), ("clippy_level", .str m.level)])

def finding? (platform file : String) (m : Message) : Option Finding :=
  if m.isUnresolved then none else m.span?.map (m.found platform file)

def note? (file : String) (m : Message) : Option String :=
  if m.isUnresolved then some (file ++ ": unresolved import skipped (" ++ m.text ++ ")") else none

end Message

/-! ## Reading a message -/

theorem labelOf_code (m : Message) : labelOf m.code = .ok (.text m.label) := by
  unfold Message.label Message.code
  cases m.code? with
  | none => rfl
  | some code =>
      by_cases hcode : code = "" <;>
        simp [labelOf, Json.ofOption, Json.orElse, Json.isFilled, Option.filter, hcode]

theorem Span.In.filled {span : Span} {v : Json} (h : span.In v) :
    ∃ mark, v.fieldOf "is_primary" = .ok mark ∧ mark.isFilled = span.primary := by
  refine ⟨v.field "is_primary", Json.fieldOf_eq h.place.object _, ?_⟩
  rcases h.primary with heq | ⟨heq, hspan⟩
  · rw [heq]
    rfl
  · rw [heq, hspan]
    rfl

/-- The choice among the objects is the choice among the spans. -/
theorem exists_primaryOr {first : Span} {v : Json} (hfirst : first.In v) {spans : List Span}
    {items : List Json} (h : List.Forall₂ Span.In spans items) :
    ∃ chosen, primaryOr v items = .ok chosen ∧
      ((spans.find? (·.primary)).getD first).In chosen := by
  induction h with
  | nil => exact ⟨v, rfl, hfirst⟩
  | @cons span item spans items hspan _ ih =>
      obtain ⟨mark, hmark, hfilled⟩ := hspan.filled
      rw [primaryOr, hmark, List.find?_cons]
      simp only [hfilled]
      cases span.primary with
      | true => exact ⟨item, rfl, hspan⟩
      | false => exact ih

theorem exists_chosenSpan {spans : List Span} {items : List Json}
    (h : List.Forall₂ Span.In spans items) {span : Span}
    (hspan : (spans.find? (·.primary)).or spans.head? = some span) :
    ∃ chosen, chosenSpan (.arr items) = .ok chosen ∧ span.In chosen := by
  cases h with
  | nil => cases hspan
  | @cons first item spans items hfirst hrest =>
      obtain ⟨chosen, hchosen, hin⟩ := exists_primaryOr hfirst (.cons hfirst hrest)
      rw [List.head?_cons, Option.or_some, Option.some.injEq] at hspan
      exact ⟨chosen, hchosen, hspan ▸ hin⟩

theorem Message.span?_eq_none_iff {m : Message} : m.span? = none ↔ m.spans = [] := by
  cases hspans : m.spans <;> simp [Message.span?, hspans]

theorem Message.In.finding?_eq {m : Message} {v : Json} (h : m.In v) (platform file : String) :
    Clippy.finding? platform file v m.code = .ok (m.span?.map (m.found platform file)) := by
  obtain ⟨items, hitems, hspans⟩ := h.spans
  have hfield : v.fieldOf "spans" = .ok (.arr items) := by rw [Json.fieldOf_eq h.object, hitems]
  cases hspan : m.span? with
  | none =>
      rw [Message.span?_eq_none_iff.mp hspan] at hspans
      cases hspans
      simp only [Clippy.finding?, hfield]
      rfl
  | some span =>
      obtain ⟨chosen, hchosen, hin⟩ := exists_chosenSpan hspans hspan
      obtain ⟨hline, hcolumn, hlast⟩ :
          chosen.fieldOf "line_start" = .ok (.num (.int span.line)) ∧
          chosen.fieldOf "column_start" = .ok (.num (.int span.column)) ∧
          chosen.fieldOf "column_end" = .ok (Extent.number? span.lastColumn?) := hin.place.start
      have hfilled : (Json.arr items).isFilled = true := by
        cases items with
        | nil => cases hchosen
        | cons => rfl
      have hsame : (Json.arr items).orElse (.arr []) = .arr items := if_pos hfilled
      simp only [Clippy.finding?, hfield, hsame, hfilled, hchosen, Json.fieldOf_eq h.object,
        h.level, Json.fieldOr_eq h.object h.text (by simp), hline, hcolumn, hlast,
        Json.whole_orElse_one, Extent.lengthTo_number?, labelOf_code, bind, Except.bind, pure,
        Except.pure, Bool.not_true, Bool.false_eq_true, if_false]
      rfl

/-! ## Entries -/

/-- What an entry of the stream is about. -/
inductive Entry
  | message (m : Message)
  | other

/-- An object is the entry; its reason tells the messages of the compiler from the rest. -/
inductive Entry.In : Entry → Json → Prop
  | message {m : Message} {v : Json} : v.kind = .dict →
      v.field "reason" = .str "compiler-message" → m.In (v.field "message") → In (.message m) v
  | other {v : Json} : v.kind = .dict → v.field "reason" ≠ .str "compiler-message" → In .other v

namespace Entry

def finding? (platform file : String) : Entry → Option Finding
  | message m => m.finding? platform file
  | other => none

def note? (file : String) : Entry → Option String
  | message m => m.note? file
  | other => none

end Entry

namespace Outcome

def finding? : Outcome → Option Finding
  | finding f => some f
  | _ => none

def note? : Outcome → Option String
  | note text => some text
  | _ => none

end Outcome

theorem any_isText_code (m : Message) :
    unresolvedImports.any (m.code.isText ·) = m.isUnresolved := by
  rw [Bool.eq_iff_iff, List.any_eq_true, Message.isUnresolved]
  simp only [Json.isText_iff, Message.code]
  cases m.code? <;> simp [Json.ofOption]

theorem CodeIn.fieldOf_eq {code? : Option String} {v : Json} (h : CodeIn code? v) :
    (v.orElse (.obj [])).fieldOf "code" = .ok (Json.ofOption .str code?) := by
  cases h with
  | none => rfl
  | some hv hcode => rw [Json.orElse_eq hv hcode (by simp), Json.fieldOf_eq hv, hcode]; rfl

/-- An entry comes to the finding or the note of its message. -/
theorem Entry.In.exists_ofEntry {e : Entry} {v : Json} (h : e.In v) (platform file : String) :
    ∃ outcome, ofEntry platform file v = .ok outcome ∧
      outcome.finding? = e.finding? platform file ∧ outcome.note? = e.note? file := by
  cases h with
  | other hv hreason =>
      refine ⟨.skipped, ?_, rfl, rfl⟩
      have hother : (v.field "reason").isText "compiler-message" = false :=
        Bool.eq_false_iff.mpr (Json.isText_iff.not.mpr hreason)
      simp only [ofEntry, Json.fieldOf_eq hv, hother, bind, Except.bind]
      rfl
  | @message m _ hv hreason hm =>
      have hreason' : (v.field "reason").isText "compiler-message" = true :=
        Json.isText_iff.mpr hreason
      have hmessage := Json.orElse_eq hm.object hm.text (by simp) (.obj [])
      have hcode : (((v.field "message").field "code").orElse (.obj [])).fieldOf "code" =
          .ok m.code := hm.code.fieldOf_eq
      simp only [ofEntry, Json.fieldOf_eq hv, hreason', hmessage, Json.fieldOf_eq hm.object, hcode,
        any_isText_code, hm.finding?_eq, hm.text, bind, Except.bind, pure, Except.pure,
        Bool.not_true, Bool.false_eq_true, if_false]
      by_cases hunresolved : m.isUnresolved = true
      · rw [if_pos hunresolved]
        exact ⟨_, rfl, (if_pos hunresolved).symm, (if_pos hunresolved).symm⟩
      · rw [if_neg hunresolved]
        have hnote : Entry.note? file (.message m) = none := if_neg hunresolved
        have hfinding : Entry.finding? platform file (.message m) =
            m.span?.map (m.found platform file) := if_neg hunresolved
        rw [hnote, hfinding]
        cases m.span? with
        | none => exact ⟨.skipped, rfl, rfl, rfl⟩
        | some span => exact ⟨.finding _, rfl, rfl, rfl⟩

theorem Entry.In.object {e : Entry} {v : Json} (h : e.In v) : v.kind = .dict := by
  cases h with
  | message hv => exact hv
  | other hv => exact hv

theorem Entry.In.exists_ofLine {e : Entry} {v : Json} (h : e.In v) {text : List Char}
    (hwritten : Json.Written v text) (platform file : String) :
    ∃ outcome, ofLine platform file text = .ok outcome ∧
      outcome.finding? = e.finding? platform file ∧ outcome.note? = e.note? file := by
  obtain ⟨outcome, hentry, htold⟩ := h.exists_ofEntry platform file
  obtain ⟨fields, rfl⟩ := Json.exists_fields h.object
  have hobject := hwritten.objectText
  have hread := hwritten.readAll_eq
  obtain ⟨inside, rfl⟩ := List.head?_eq_some_iff.mp hobject.first
  refine ⟨outcome, ?_, htold⟩
  simp only [ofLine, hobject.trim_eq, hread, hentry]

/-! ## Lines -/

/-- A line of the stream: an entry, written in one line, or a text that does not start with a
brace. -/
inductive Line
  | entry {v : Json} (e : Entry) (text : List Char) (told : e.In v) (written : Json.Written v text)
  | other (text : List Char) (plain : text.head? ≠ some '\x7b')

namespace Line

def text : Line → List Char
  | entry _ text _ _ => text
  | other text _ => text

def finding? (platform file : String) : Line → Option Finding
  | entry e _ _ _ => e.finding? platform file
  | other .. => none

def note? (file : String) : Line → Option String
  | entry e _ _ _ => e.note? file
  | other .. => none

/-- The breaks that no program has to escape in a text. -/
def strays : List Nat := [0x85, 0x2028, 0x2029]

/-- The text is JSON, though a number in it may be too long to be read. -/
def isJson (cs : List Char) : Bool :=
  match Json.readAll cs with
  | .error (.refused ..) => false
  | _ => true

/-- A piece of a text is taken for an entry: behind its blanks it starts with a brace, and it is
JSON. -/
def TakenForEntry (piece : List Char) : Prop :=
  (trim piece).head? = some '\x7b' ∧ isJson (trim piece) = true

instance (piece : List Char) : Decidable (TakenForEntry piece) :=
  inferInstanceAs (Decidable (_ ∧ _))

/-- A stray break takes an entry apart. A piece of another line, between its breaks, may be taken
for one. -/
def Misread : Line → Prop
  | entry _ text _ _ => ∃ c ∈ text, c.toNat ∈ strays
  | other text _ => ∃ piece ∈ linesOf text, TakenForEntry piece

/-- The stream of some lines. -/
def stream (lines : List Line) : String :=
  String.ofList (List.intercalate ['\n'] (lines.map text))

end Line

theorem not_isLineBreak {c : Char} (hc : 32 ≤ c.toNat ∨ c = '\t') (hstray : c.toNat ∉ Line.strays) :
    isLineBreak c = false := by
  rcases hc with hc | rfl
  · simp only [Line.strays, List.mem_cons, List.not_mem_nil, or_false, not_or] at hstray
    simp only [isLineBreak, Bool.or_eq_false_iff, Bool.and_eq_false_iff, decide_eq_false_iff_not,
      beq_eq_false_iff_ne]
    omega
  · rfl

/-! ## Streams -/

/-- The messages of some outcomes. -/
def gathered (outcomes : List Outcome) : Messages :=
  ⟨outcomes.filterMap Outcome.finding?, outcomes.filterMap Outcome.note?⟩

section Streams

variable {platform file : String}

/-- What the pieces of a stream come to. -/
def Tells (platform file : String) (pieces : List (List Char)) (m : Messages) : Prop :=
  ∃ outcomes, pieces.mapM (ofLine platform file) = .ok outcomes ∧ gathered outcomes = m

theorem messages_eq_of_tells {stdout : String} {m : Messages}
    (h : Tells platform file (linesOf stdout.toList) m) :
    messages platform file stdout = .ok m := by
  obtain ⟨outcomes, hmap, rfl⟩ := h
  unfold messages
  rw [hmap]
  rfl

theorem Tells.append {pieces pieces' : List (List Char)} {m m' : Messages}
    (h : Tells platform file pieces m) (h' : Tells platform file pieces' m') :
    Tells platform file (pieces ++ pieces') ⟨m.findings ++ m'.findings, m.notes ++ m'.notes⟩ := by
  obtain ⟨outcomes, hmap, rfl⟩ := h
  obtain ⟨outcomes', hmap', rfl⟩ := h'
  refine ⟨outcomes ++ outcomes', ?_, ?_⟩
  · rw [List.mapM_append, hmap, hmap']
    rfl
  · simp [gathered]

theorem ofLine_eq_skipped {piece : List Char} (h : ¬Line.TakenForEntry piece) :
    ofLine platform file piece = .ok .skipped := by
  unfold ofLine
  split
  next rest heq =>
    have hbrace : (trim piece).head? = some '\x7b' := by rw [heq]; rfl
    have hjson : Line.isJson ('\x7b' :: rest) ≠ true := by
      intro hjson
      exact h ⟨hbrace, heq ▸ hjson⟩
    cases hread : Json.readAll ('\x7b' :: rest) with
    | ok v => exact absurd (by rw [Line.isJson, hread]) hjson
    | error stop =>
        cases stop with
        | refused => rfl
        | tooLong digits => exact absurd (by rw [Line.isJson, hread]) hjson
  next => rfl

/-- Pieces of which none is taken for an entry come to nothing. -/
theorem tells_nothing {pieces : List (List Char)}
    (h : ∀ piece ∈ pieces, ¬Line.TakenForEntry piece) : Tells platform file pieces ⟨[], []⟩ := by
  induction pieces with
  | nil => exact ⟨[], rfl, rfl⟩
  | cons piece pieces ih =>
      obtain ⟨hpiece, hpieces⟩ := List.forall_mem_cons.mp h
      have hfirst : Tells platform file [piece] ⟨[], []⟩ :=
        ⟨[.skipped], by simp [ofLine_eq_skipped hpiece], rfl⟩
      exact hfirst.append (ih hpieces)

/-- A line by itself comes to the finding or the note of its entry. -/
theorem Line.tells {line : Line} (h : ¬line.Misread) (platform file : String) :
    Tells platform file (linesOf line.text)
      ⟨(line.finding? platform file).toList, (line.note? file).toList⟩ := by
  cases line with
  | other text plain =>
      apply tells_nothing
      intro piece hpiece htaken
      exact h ⟨piece, hpiece, htaken⟩
  | entry e text told written =>
      have hunbroken : ∀ c ∈ text, isLineBreak c = false := by
        intro c hc
        apply not_isLineBreak (written.onLine c hc)
        intro hstray
        exact h ⟨c, hc, hstray⟩
      obtain ⟨outcome, hline, hfinding, hnote⟩ := told.exists_ofLine written platform file
      refine ⟨[outcome], ?_, ?_⟩
      · rw [Line.text, linesOf_of_unbroken hunbroken written.spells.nonempty]
        simp [hline]
      · rw [gathered, Line.finding?, Line.note?, ← hfinding, ← hnote]
        cases outcome <;> rfl

theorem filterMap_cons_toList {α β : Type} (f : α → Option β) (a : α) (as : List α) :
    (a :: as).filterMap f = (f a).toList ++ as.filterMap f := by
  cases h : f a <;> simp [h]

theorem tells_stream {lines : List Line} (h : ∀ line ∈ lines, ¬line.Misread) :
    Tells platform file (linesOf (List.intercalate ['\n'] (lines.map Line.text)))
      ⟨lines.filterMap (Line.finding? platform file), lines.filterMap (Line.note? file)⟩ := by
  induction lines with
  | nil => exact ⟨[], rfl, rfl⟩
  | cons line lines ih =>
      obtain ⟨hline, hlines⟩ := List.forall_mem_cons.mp h
      have hfirst := line.tells hline platform file
      rw [filterMap_cons_toList, filterMap_cons_toList]
      cases lines with
      | nil => simpa using hfirst
      | cons next lines =>
          obtain ⟨gap, hgap, heq⟩ := exists_linesFrom_append [] line.text
            (List.intercalate ['\n'] ((next :: lines).map Line.text))
          have hempty : Tells platform file gap ⟨[], []⟩ := by
            apply tells_nothing
            intro piece hpiece htaken
            rw [hgap piece hpiece] at htaken
            cases htaken.1
          have hjoined := hfirst.append (hempty.append (ih hlines))
          rw [← linesOf, ← linesOf] at heq
          rw [← heq] at hjoined
          exact hjoined

end Streams

/-! ## Messages as they are written -/

def Span.json (span : Span) : Json :=
  .obj [("line_start", .num (.int span.line)), ("column_start", .num (.int span.column)),
    ("line_end", Extent.number? span.lastLine?), ("column_end", Extent.number? span.lastColumn?),
    ("is_primary", .bool span.primary)]

theorem Span.in_json (span : Span) : span.In span.json where
  place := ⟨rfl, rfl, rfl, rfl, rfl⟩
  primary := .inl rfl

def codeJson (code? : Option String) : Json :=
  Json.ofOption (fun code => .obj [("code", .str code)]) code?

theorem codeIn_codeJson (code? : Option String) : CodeIn code? (codeJson code?) := by
  cases code? with
  | none => exact .none
  | some code => exact .some rfl rfl

def Message.fields (m : Message) : List (String × Json) :=
  [("message", .str m.text), ("level", .str m.level), ("code", codeJson m.code?),
    ("spans", .arr (m.spans.map Span.json))]

def Message.json (m : Message) : Json := .obj m.fields

theorem Message.in_json (m : Message) : m.In m.json where
  object := rfl
  text := rfl
  level := rfl
  code := codeIn_codeJson m.code?
  spans := ⟨_, rfl, List.forall₂_map_right_iff.mpr (List.forall₂_same.mpr fun span _ =>
    span.in_json)⟩

/-- The object of an entry. -/
def Message.entry (m : Message) : Json :=
  .obj [("reason", .str "compiler-message"), ("message", m.json)]

/-- The text of an entry with that text of the message. -/
def entryText (cs : List Char) : List Char :=
  '\x7b' :: (Json.writtenText "reason" ++ ':' :: Json.writtenText "compiler-message" ++
    ',' :: (Json.writtenText "message" ++ ':' :: cs ++ ['\x7d']))

theorem written_entryText {m : Message} {cs : List Char} (h : Json.Written m.json cs) :
    Json.Written m.entry (entryText cs) := by
  have hreason : Json.Written (.str "compiler-message") (Json.writtenText "compiler-message") :=
    Json.Plain.written _ trivial
  have hfields := Json.FieldsWritten.next (Json.fieldWritten_mk "reason" hreason) Json.spacing_nil
    Json.spacing_nil (.last (Json.fieldWritten_mk "message" h) Json.spacing_nil)
  exact @Json.Written.object [] _ _ Json.spacing_nil (by simp) hfields

/-- The line of a message, whose object may be written in any way. -/
def Message.line (m : Message) {cs : List Char} (h : Json.Written m.json cs) : Line :=
  .entry (.message m) (entryText cs) (@Entry.In.message m m.entry rfl rfl m.in_json)
    (written_entryText h)

/-- In ASCII, no stray break stands in a line. -/
theorem Message.not_misread_line {m : Message} {cs : List Char} (h : Json.Written m.json cs)
    (hascii : Json.Ascii cs) : ¬(m.line h).Misread := by
  rintro ⟨c, hc, hstray⟩
  have hreason : Json.Ascii
      (Json.writtenText "reason" ++ ':' :: Json.writtenText "compiler-message") :=
    (Json.ascii_writtenText _).append ((Json.ascii_writtenText _).mark (by decide))
  have hmessage : Json.Ascii (Json.writtenText "message" ++ ':' :: cs) :=
    (Json.ascii_writtenText _).append (hascii.mark (by decide))
  have hclosed := hmessage.append (Json.ascii_nil.mark (by decide : ('\x7d').toNat < 128))
  have hline : Json.Ascii (entryText cs) :=
    (hreason.append (hclosed.mark (by decide))).mark (by decide)
  have hbound : c.toNat < 128 := hline c hc
  simp only [Line.strays, List.mem_cons, List.not_mem_nil, or_false] at hstray
  omega

/-! ## What is told -/

/-- A stream whose lines are not misread is told in full: in order, each message of the compiler
that has a span comes to one finding, and each import that is not resolved to one note. -/
theorem told_unless_misread {lines : List Line} (h : ∀ line ∈ lines, ¬line.Misread)
    (platform file : String) : messages platform file (Line.stream lines) =
      .ok ⟨lines.filterMap (Line.finding? platform file), lines.filterMap (Line.note? file)⟩ := by
  refine messages_eq_of_tells ?_
  rw [Line.stream, String.toList_ofList]
  exact tells_stream h

def unneeded : Message :=
  { text := "unneeded return", level := "warning", code? := "clippy::needless_return"
    spans := [⟨⟨2, 1, none, some 4⟩, false⟩, ⟨⟨8, 9, some 8, some 23⟩, true⟩] }

def unresolved : Message :=
  { text := "unresolved import", level := "error", code? := "E0432"
    spans := [⟨⟨1, 5, none, none⟩, true⟩] }

/-- A message that quotes the separator of lines. -/
def separator : Message :=
  { text := "\u2028", level := "note", code? := none, spans := [⟨⟨1, 1, none, none⟩, true⟩] }

theorem plain_samples :
    unneeded.json.Plain ∧ unresolved.json.Plain ∧ Json.PlainFields separator.fields.tail := by
  have hlimit : 10 ^ 2 ≤ 10 ^ Numeral.digitLimit := Nat.pow_le_pow_right (by decide) (by decide)
  simp [unneeded, unresolved, separator, Message.json, Message.fields, Span.json, Json.Plain,
    Json.PlainFields, Json.PlainItems, codeJson, Json.ofOption, Extent.number?]
  omega

/-- The separator stands in its message as it is. -/
theorem written_separator : ∃ cs, Json.Written separator.json cs ∧
    ∀ piece ∈ linesOf (entryText cs), ¬Line.TakenForEntry piece := by
  have htext : Json.TextWritten "\u2028".toList ['\u2028'] :=
    .cons (.bare (by decide) (by decide) (by decide)) .nil
  have hfields := Json.FieldsWritten.next (Json.fieldWritten_mk "message" (.text htext))
    Json.spacing_nil Json.spacing_nil
    (Json.PlainFields.written separator.fields.tail (by decide) plain_samples.2.2)
  exact ⟨_, @Json.Written.object [] _ _ Json.spacing_nil (by decide) hfields, by decide +kernel⟩

def sampleLines : List Line :=
  [.other "   Compiling vault v0.1.0".toList (by decide),
    unresolved.line (plain_samples.2.1.written _), unneeded.line (plain_samples.1.written _)]

/-- A stream that is told in full, and a message that is not, as a separator stands in it. -/
theorem told_sample :
    ((∀ line ∈ sampleLines, ¬line.Misread) ∧
      messages "solana" "lib.rs" (Line.stream sampleLines) =
        .ok ⟨[unneeded.found "solana" "lib.rs" ⟨⟨8, 9, some 8, some 23⟩, true⟩],
          ["lib.rs: unresolved import skipped (unresolved import)"]⟩) ∧
    ∃ line : Line, (line.finding? "solana" "lib.rs").isSome ∧
      messages "solana" "lib.rs" (Line.stream [line]) = .ok ⟨[], []⟩ := by
  have hprogress : ¬(Line.other "   Compiling vault v0.1.0".toList (by decide)).Misread := by
    have hplain : ∀ piece ∈ linesOf "   Compiling vault v0.1.0".toList,
        (trim piece).head? ≠ some '\x7b' := by decide
    rintro ⟨piece, hpiece, htaken⟩
    exact hplain piece hpiece htaken.1
  have hread : ∀ line ∈ sampleLines, ¬line.Misread :=
    List.forall_mem_cons.mpr ⟨hprogress, List.forall_mem_cons.mpr
      ⟨Message.not_misread_line _ (plain_samples.2.1.ascii _),
        List.forall_mem_singleton.mpr (Message.not_misread_line _ (plain_samples.1.ascii _))⟩⟩
  refine ⟨⟨hread, told_unless_misread hread "solana" "lib.rs"⟩, ?_⟩
  obtain ⟨cs, hwritten, hpieces⟩ := written_separator
  refine ⟨separator.line hwritten, rfl, messages_eq_of_tells ?_⟩
  rw [Line.stream, String.toList_ofList]
  simpa [Message.line, Line.text] using tells_nothing hpieces

end ContractReview.Clippy
