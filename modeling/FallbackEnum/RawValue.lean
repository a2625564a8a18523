import FallbackEnum.Text.Digits
import FallbackEnum.Text.Quoted
import FallbackEnum.Token.Basic

/-!
# Raw values

The scalar behind a variant is a text or a 64-bit integer. An enum is of one kind throughout.
-/

namespace FallbackEnum

/-! ### Kinds -/

/-- The scalar type behind all variants of an enum. -/
inductive RawKind where
  | text
  | integer
deriving DecidableEq, Repr, Inhabited

namespace RawKind

/-- How a declaration names the kind. -/
def typeName : RawKind → String
  | text => "String"
  | integer => "i64"

/-- The kind with a given name. -/
def ofTypeName? (name : String) : Option RawKind :=
  [text, integer].find? fun kind => kind.typeName == name

/-- How generated code names the kind: by its full path. -/
def scalarType : RawKind → List Token
  | text =>
    Token.operator "::" ++ [.word "std"] ++ Token.operator "::" ++ [.word "string"] ++
      Token.operator "::" ++ [.word "String"]
  | integer => [.word "i64"]

@[simp] theorem ofTypeName?_typeName (kind : RawKind) :
    ofTypeName? kind.typeName = some kind := by
  cases kind <;> rfl

end RawKind

/-! ### Values -/

/-- A raw value of either kind. -/
inductive RawValue where
  | text (value : String)
  | integer (value : Int64)
deriving DecidableEq, Repr, Inhabited

namespace RawValue

/-- The kind of a raw value. -/
def kind : RawValue → RawKind
  | text _ => .text
  | integer _ => .integer

@[simp] theorem kind_text (value : String) : (text value).kind = .text := rfl

@[simp] theorem kind_integer (value : Int64) : (integer value).kind = .integer := rfl

/-- The code that denotes a raw value: a quoted text, or a numeral behind an optional sign. -/
def tokens : RawValue → List Token
  | text value => [.lit (Text.quoted value)]
  | integer value =>
    let magnitude := [Token.lit (Text.numeral value.toInt.natAbs)]
    if value.toInt < 0 then Token.operator "-" ++ magnitude else magnitude

/-- The integer as one of 64 bits, if it is in their range. -/
def int64? (n : Int) : Option Int64 :=
  if Int64.minValue.toInt ≤ n ∧ n ≤ Int64.maxValue.toInt then some (Int64.ofInt n) else none

/-- The integer as a raw value, if it has 64 bits. -/
def ofInt? (n : Int) : Option RawValue := (int64? n).map integer

/-- The raw value that digits behind an optional sign denote, if it has 64 bits. -/
def ofDecimal? (digits : String) : Option RawValue :=
  (Text.ofSignedDigits? digits.toList).bind ofInt?

end RawValue

end FallbackEnum
