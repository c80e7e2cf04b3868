import ContractReview.Number.Basic

/-!
Structured data as tools and models hand it over.
-/

namespace ContractReview

inductive Json
  | null
  | bool (value : Bool)
  | num (value : Number)
  | str (text : String)
  | arr (items : List Json)
  | obj (fields : List (String × Json))

namespace Json

instance : Inhabited Json := ⟨.null⟩
instance : Coe String Json := ⟨.str⟩
instance : Coe Bool Json := ⟨.bool⟩
instance : Coe Int Json := ⟨fun i => .num (.int i)⟩
instance : Coe Nat Json := ⟨fun n => .num (.int n)⟩
instance : Coe Float Json := ⟨fun x => .num (.float x)⟩
instance : Coe Number Json := ⟨.num⟩

/-- The kinds of value. -/
inductive Kind
  | null | bool | int | float | str | list | dict
deriving DecidableEq, Repr

/-- The kind as reports name it. -/
def Kind.name : Kind → String
  | .null => "NoneType"
  | .bool => "bool"
  | .int => "int"
  | .float => "float"
  | .str => "str"
  | .list => "list"
  | .dict => "dict"

def kind : Json → Kind
  | .null => .null
  | .bool _ => .bool
  | .num (.int _) => .int
  | .num (.float _) => .float
  | .str _ => .str
  | .arr _ => .list
  | .obj _ => .dict

/-- Neither absent nor false, zero or empty. -/
def isFilled : Json → Bool
  | .null => false
  | .bool b => b
  | .num n => !n.isZero
  | .str s => s != ""
  | .arr items => !items.isEmpty
  | .obj fields => !fields.isEmpty

/-- The value, unless it is empty. -/
def orElse (v default : Json) : Json := if v.isFilled then v else default

/-- Sets a field: an old name keeps its place, a new one comes last. -/
def insert (name : String) (value : Json) : List (String × Json) → List (String × Json)
  | [] => [(name, value)]
  | (n, v) :: rest =>
      if n = name then (n, value) :: rest else (n, v) :: insert name value rest

/-- Fields in order, the later of one name winning. -/
def merge (fields others : List (String × Json)) : List (String × Json) :=
  others.foldl (fun all (name, value) => insert name value all) fields

def lookup (name : String) (fields : List (String × Json)) : Option Json :=
  List.lookup name fields

/-- The field of an object, absent elsewhere. -/
def field (name : String) : Json → Json
  | .obj fields => (lookup name fields).getD .null
  | _ => .null

def ofStrings (texts : List String) : Json := .arr (texts.map .str)

def ofOption {α : Type} (f : α → Json) : Option α → Json
  | none => .null
  | some a => f a

end Json

end ContractReview
