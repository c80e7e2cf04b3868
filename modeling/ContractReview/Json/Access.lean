import ContractReview.Fault
import ContractReview.Json.Literal

/-!
Taking data apart that may have any shape. What does not fit is a fault that names the kind of value
found.
-/

namespace ContractReview.Json

/-- The field of an object, if it has one of the name; other values have no fields. -/
def fieldOr (v : Json) (name : String) (default : Json) : Except Fault Json :=
  match v with
  | .obj fields => .ok ((lookup name fields).getD default)
  | v => .error (.noFields v.kind)

def fieldOf (v : Json) (name : String) : Except Fault Json := v.fieldOr name .null

/-- The first of several items. -/
def firstItem : Json → Except Fault Json
  | .arr (item :: _) => .ok item
  | .arr [] => .error .listIndex
  | .str s =>
      match s.toList with
      | c :: _ => .ok (.str c.toString)
      | [] => .error .emptyText
  | .obj _ => .error .noFirstItem
  | v => .error (.noItems v.kind)

/-- The items that a value runs through: those of a list, the characters of a text, the names of an
object. -/
def itemsOf : Json → Except Fault (List Json)
  | .arr items => .ok items
  | .str s => .ok (s.toList.map fun c => .str c.toString)
  | .obj fields => .ok (fields.map fun (name, _) => .str name)
  | v => .error (.notIterable v.kind)

/-- The whole part of a double. -/
def wholeOfFloat (x : Float) : Except Fault Int :=
  match Double.trunc? x with
  | some i => .ok i
  | none => if x.isNaN then .error .nanToWhole else .error .infinityToWhole

/-- A whole number from a number, a numeral or a truth value. -/
def whole : Json → Except Fault Int
  | .bool b => .ok (if b then 1 else 0)
  | .num (.int i) => .ok i
  | .num (.float x) => wholeOfFloat x
  | .str s => (Numeral.whole s).mapError .misread
  | v => .error (.notNumeric v.kind)

/-- How far it is from the column `start` to the column that a value gives, if it gives one. -/
def lengthTo (stop : Json) (start : Int) : Except Fault Json :=
  if stop.isFilled then stop.whole.map fun stop => .num (.int (stop - start)) else .ok .null

/-- Why a value is no double. -/
inductive NoDouble
  | tooLarge | otherwise
deriving DecidableEq, Repr

/-- A double from a number, a numeral or a truth value. -/
def double : Json → Except NoDouble Float
  | .bool b => .ok (if b then 1.0 else 0.0)
  | .num n =>
      match n.toFloat? with
      | some x => .ok x
      | none => .error .tooLarge
  | .str s =>
      match Numeral.double? s with
      | some x => .ok x
      | none => .error .otherwise
  | _ => .error .otherwise

def isText (text : String) : Json → Bool
  | .str s => s = text
  | _ => false

end ContractReview.Json
