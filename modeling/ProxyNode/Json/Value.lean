import ProxyNode.Data.OrderedMap
import ProxyNode.Text.Raw

/-!
# Json — Value

JSON values.  Whole numbers are exact and of any size, other numbers are doubles, and an object
keeps its fields in the order in which their names first occurred.

* `field_nil`: an absent field reads as null.
-/

namespace ProxyNode

inductive Json where
  | null
  | bool (b : Bool)
  | int (i : Int)
  | real (x : Float)
  | text (s : RawText)
  | array (items : List Json)
  | object (fields : List (RawText × Json))

instance : Inhabited Json := ⟨.null⟩

namespace Json

/-- The values that count as nothing: null, false, zero, and the empty text, array and object. -/
def isVoid : Json → Bool
  | .null => true
  | .bool b => !b
  | .int i => i == 0
  | .real x => x == 0.0
  | .text s => s == .whole ""
  | .array items => items.isEmpty
  | .object fields => fields.isEmpty

/-- The value of a field, if there is one. -/
def field? (name : String) (fields : List (RawText × Json)) : Option Json :=
  OrderedMap.find (.whole name) fields

/-- The value of a field; an absent one is null. -/
def field (name : String) (fields : List (RawText × Json)) : Json :=
  (field? name fields).getD .null

/-- An object whose names have no halves in them. -/
def record (fields : List (String × Json)) : Json := .object (fields.map fun f => (.whole f.1, f.2))

/-- What kind of value this is, as messages call it. -/
def kindName : Json → String
  | .null => "NoneType"
  | .bool _ => "bool"
  | .int _ => "int"
  | .real _ => "float"
  | .text _ => "str"
  | .array _ => "list"
  | .object _ => "dict"

theorem field_nil (name : String) : field name [] = .null := rfl

end Json

end ProxyNode
