import FallbackEnum.Decimal.Shortest
import FallbackEnum.Text.Quoted

/-!
# Decoding errors

What stands in the way of decoding: the input is malformed, it ends too early, or it is well
formed and of the wrong shape. In the last case the message names what was found and what was
expected.
-/

namespace FallbackEnum

/-- What was found instead of what was expected. -/
inductive Found where
  | boolean (value : Bool)
  | integer (value : Int)
  /-- An integer of a type that is wider than any that is expected. -/
  | wideInteger (value : Int) (typeName : String)
  | float (value : Binary64)
  | text (value : String)
  | bytes (value : List UInt8)
  | nothing
  | sequence
  | map

/-- What was expected. -/
inductive Expected where
  | text
  | integer
  | boolean
  | sequence
  | map
  | pair
  | record
  | recordFields
deriving DecidableEq, Repr

namespace Expected

/-- How messages name what was expected. -/
def describe : Expected → String
  | text => "a string"
  | integer => "i64"
  | boolean => "a boolean"
  | sequence => "a sequence"
  | map => "a map"
  | pair => "a tuple of size 2"
  | record => "struct Record"
  | recordFields => "struct Record with 2 elements"

end Expected

/-- Where a value comes from, which decides how messages write numbers and the lack of a
value. -/
inductive Origin where
  | document
  | memory
deriving DecidableEq, Repr

namespace Origin

/-- Documents use exponents from 1e16 on and below 1e-5, with a sign and two digits; values in
memory are written without exponents. -/
def numberStyle : Origin → Decimal.Style
  | document => { positional := some (-5, 15), exponentDigits := 2 }
  | memory => { positional := none, exponentDigits := 1 }

/-- The word for the lack of a value. -/
def nothingWord : Origin → String
  | document => "null"
  | memory => "unit value"

end Origin

namespace Found

/-- How messages name what was found. -/
def describe (origin : Origin) : Found → String
  | boolean value => "boolean `" ++ (if value then "true" else "false") ++ "`"
  | integer value => "integer `" ++ toString value ++ "`"
  | wideInteger value typeName => "integer `" ++ toString value ++ "` as " ++ typeName
  | float value => "floating point `" ++ Decimal.text origin.numberStyle value ++ "`"
  | text value => "string " ++ Text.shown value
  | bytes _ => "byte array"
  | nothing => origin.nothingWord
  | sequence => "sequence"
  | map => "map"

end Found

/-- How well-formed input can be of the wrong shape. -/
inductive Mismatch where
  /-- A value of another type. -/
  | type (found : Found) (expected : Expected)
  /-- A value of the right type that is not acceptable. -/
  | value (found : Found) (expected : Expected)
  /-- A sequence that ends too early. -/
  | length (count : Nat) (expected : Expected)
  | missingField (name : String)
  | duplicateField (name : String)

namespace Mismatch

/-- The message of a mismatch. -/
def message (origin : Origin) : Mismatch → String
  | type found expected =>
    "invalid type: " ++ found.describe origin ++ ", expected " ++ expected.describe
  | value found expected =>
    "invalid value: " ++ found.describe origin ++ ", expected " ++ expected.describe
  | length count expected =>
    "invalid length " ++ toString count ++ ", expected " ++ expected.describe
  | missingField name => "missing field `" ++ name ++ "`"
  | duplicateField name => "duplicate field `" ++ name ++ "`"

end Mismatch

/-- Why a value cannot be decoded. -/
inductive DecodeError where
  /-- The text breaks the rules of the format. -/
  | malformed
  /-- The text ends within a value. -/
  | truncated
  /-- The value is of the wrong shape. -/
  | mismatch (cause : Mismatch)

end FallbackEnum
