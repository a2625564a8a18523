import FallbackEnum.Decode.Scalar
import FallbackEnum.RawEnum

/-!
# Values in memory

A value that is decoded need not come from a document: it may already be held as a value of some
scalar type. Sized integers have the range of their type.
-/

namespace FallbackEnum

/-! ### Integer types -/

/-- A type of sized integers. -/
structure IntegerType where
  signed : Bool
  bits : Nat
deriving DecidableEq, Repr

namespace IntegerType

/-- The name of a type, such as `u8`. -/
def name (type : IntegerType) : String :=
  (if type.signed then "i" else "u") ++ Text.numeral type.bits

/-- All integer types. -/
def all : List IntegerType :=
  [8, 16, 32, 64, 128].flatMap fun bits => [⟨true, bits⟩, ⟨false, bits⟩]

/-- The type with a name. -/
def ofName? (name : String) : Option IntegerType := all.find? fun type => type.name = name

/-- Is an integer in the range of a type? -/
def holds (type : IntegerType) (n : Int) : Bool :=
  let half : Int := Nat.pow 2 (type.bits - 1)
  if type.signed then -half ≤ n && n < half else 0 ≤ n && n < 2 * half

/-- Is the type wider than the integers that can be raw values? -/
def isWide (type : IntegerType) : Bool := 64 < type.bits

/-- The integer of this type that digits denote, as something that was found. An unsigned type
takes no minus sign. -/
def read? (type : IntegerType) (digits : String) : Option Found := do
  let n ← Text.ofSignedDigits? digits.toList
  guard (type.holds n && (type.signed || !digits.startsWith "-"))
  return if type.isWide then .wideInteger n type.name else .integer n

end IntegerType

/-! ### Scalars written as text -/

/-- The value of a named type that a text denotes: an integer, a float, or a text. A character is
a text of one. -/
def Found.read? (typeName text : String) : Option Found :=
  match IntegerType.ofName? typeName with
  | some type => type.read? text
  | none =>
    if typeName = "f64" then (Binary64.ofText? text).map .float
    else if typeName = "char" then text.toList.head?.map fun c => .text (String.singleton c)
    else if typeName = "str" ∨ typeName = "string" then some (.text text)
    else none

/-! ### Decoding -/

namespace RawEnum

/-- Decode what was found in memory: the variant, or why there is none, and the raw values that
were not recognized. -/
def ofFound (e : RawEnum) (found : Found) : Except DecodeError String × List RawValue :=
  match found.rawValue? e.kind with
  | .ok value =>
    let (variant, unrecognized) := e.settle value e.safeCase
    (.ok variant, unrecognized)
  | .error cause => (.error (.mismatch cause), [])

end RawEnum

end FallbackEnum
