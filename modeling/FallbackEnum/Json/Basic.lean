import FallbackEnum.Decode.Error

/-!
# JSON values
-/

namespace FallbackEnum

/-- A number of a JSON text: an integer that fits 64 bits, with or without sign, or a float. -/
inductive JsonNumber where
  | integer (value : Int)
  | float (value : Binary64)
deriving DecidableEq, Repr

/-- A JSON value. -/
inductive Json where
  | null
  | bool (value : Bool)
  | number (value : JsonNumber)
  | text (value : String)
  | array (items : List Json)
  | object (fields : List (String × Json))
deriving Repr, Inhabited

namespace JsonNumber

/-- The number as something found where another type was expected. -/
def found : JsonNumber → Found
  | integer value => .integer value
  | float value => .float value

end JsonNumber

/-- What a JSON value begins with: all of a scalar, or only that it is an array or an object. -/
inductive Json.Head where
  | null
  | bool (value : Bool)
  | number (value : JsonNumber)
  | text (value : String)
  | array
  | object

namespace Json

/-- What the value begins with. -/
def head : Json → Head
  | null => .null
  | bool value => .bool value
  | number value => .number value
  | text value => .text value
  | array _ => .array
  | object _ => .object

/-- The beginning of a value as something found where another type was expected. -/
def Head.found : Head → Found
  | null => .nothing
  | bool value => .boolean value
  | number value => value.found
  | text value => .text value
  | array => .sequence
  | object => .map

end Json

end FallbackEnum
