import ContractReview.Display
import ContractReview.Record.Opinion
import ContractReview.Rehearsal

/-!
What is written down of a rehearsal, and what is shown, as data.
-/

namespace ContractReview

open Json (ofStrings ofOption)

def ToolCall.toJson (c : ToolCall) : Json :=
  .obj ([("command", .str c.command), ("args", ofStrings c.args), ("timeout", .num c.timeout),
    ("platform", .str c.platform), ("contracts", ofStrings c.contracts)] ++
    match c.files with
    | none => []
    | some files => [("files", .obj (files.map fun (name, content) => (name, .str content)))])

namespace Rehearsal

def callsToJson (r : Rehearsal) : Json := .arr (r.calls.map ToolCall.toJson)

/-- The requests to models, with or without what they are told. -/
def requestsToJson (r : Rehearsal) (withMessages : Bool) : Json :=
  .arr (r.requests.map fun request =>
    .obj (request.fields.filter fun (name, _) => withMessages || name ≠ "messages"))

/-- The pauses of a kind: those between a provider's calls, or the others. -/
def pausesToJson (r : Rehearsal) (ofKind : Bool → Bool) : Json :=
  .arr ((r.pauses.filter fun (kind, _) => ofKind kind).map fun (_, time) => .num time)

end Rehearsal

namespace Display

def Piece.toJson : Piece → Json
  | .markup text => .str text
  | .plain text style => .obj [("text", text), ("style", style)]

def Column.toJson (c : Column) : Json :=
  .obj [("header", c.header), ("style", c.style),
    ("justify", if c.toRight then "right" else "left")]

def Item.toJson : Item → Json
  | .panel body title color border =>
      .obj [("panel", body.toJson), ("title", title), ("border_style", color),
        ("box", border.name)]
  | .table columns rows =>
      .obj [("table", .arr (columns.map Column.toJson)),
        ("rows", .arr (rows.map fun row => .arr (row.map Piece.toJson)))]
  | .line text => .obj [("print", text)]

def itemsToJson (items : List Item) : Json := .arr (items.map Item.toJson)

end Display

end ContractReview
