import ContractReview.Json.Basic

/-!
Fields of data with a value for want of one: a field that is missing, or of another kind, gives the
default.
-/

namespace ContractReview.Json.Defaults

def has (v : Json) (name : String) : Bool :=
  match v with
  | .obj fields => (lookup name fields).isSome
  | _ => false

/-- The field, or the default where there is no such field; an empty one counts. -/
def fieldD (v : Json) (name : String) (default : Json) : Json :=
  if has v name then v.field name else default

def text (v : Json) (name : String) (default : String := "") : String :=
  match v.field name with
  | .str s => s
  | _ => default

def text? (v : Json) (name : String) : Option String :=
  match v.field name with
  | .str s => some s
  | _ => none

def flag (v : Json) (name : String) (default : Bool := false) : Bool :=
  match v.field name with
  | .bool b => b
  | _ => default

/-- A number; a truth value counts as one. -/
def number (v : Json) (name : String) (default : Number) : Number :=
  match v.field name with
  | .num n => n
  | .bool b => .int (if b then 1 else 0)
  | _ => default

def number? (v : Json) (name : String) : Option Number :=
  match v.field name with
  | .num n => some n
  | _ => none

def int? (v : Json) (name : String) : Option Int :=
  match v.field name with
  | .num (.int i) => some i
  | _ => none

def int (v : Json) (name : String) (default : Int) : Int := (int? v name).getD default

def items (v : Json) (name : String) : List Json :=
  match v.field name with
  | .arr items => items
  | _ => []

def fields : Json → List (String × Json)
  | .obj fields => fields
  | _ => []

/-- The texts among some values. -/
def strings : List Json → List String := List.filterMap fun
  | .str s => some s
  | _ => none

/-- The fields that are texts. -/
def texts (v : Json) : List (String × String) :=
  (fields v).filterMap fun (name, value) =>
    match value with
    | .str s => some (name, s)
    | _ => none

end ContractReview.Json.Defaults
