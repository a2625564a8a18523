import FallbackEnum.Text.Quoted
import FallbackEnum.Token.Basic

/-!
# Diagnostics

Why an enum cannot be expanded, and where. Every diagnostic has a fixed message and an identifier
for tools; in the expanded code it becomes a compile-time error.
-/

namespace FallbackEnum

/-- The cause of a failed expansion. -/
inductive Fault where
  /-- The item is not an enum. -/
  | notAnEnum
  /-- The enum declares no raw kind, or one that is not supported. -/
  | invalidRawValue
  /-- The raw value given for the fallback is of the other kind. -/
  | rawValueMismatch
  /-- A variant has fields, or a raw value of the other kind. -/
  | invalidVariantRawValue
  /-- Two variants share a text. -/
  | duplicateRawValue
deriving DecidableEq, Repr

namespace Fault

/-- The fixed message of a fault. -/
def message : Fault → String
  | notAnEnum => "`safe_decode` macro can only be attached to enums"
  | invalidRawValue => "`safe_decode` valid raw values are text and integer"
  | rawValueMismatch =>
    "the `raw_value` argument doesn't match the enum's raw-value conformance type"
  | invalidVariantRawValue =>
    "`safe_decode` variants must be unit variants whose raw value matches the enum's raw-value type"
  | duplicateRawValue => "`safe_decode` raw value is not unique"

/-- The fault's name within the family of identifiers. -/
def name : Fault → String
  | notAnEnum => "not_an_enum"
  | invalidRawValue => "invalid_raw_value"
  | rawValueMismatch => "raw_value_mismatch"
  | invalidVariantRawValue => "invalid_variant_raw_value"
  | duplicateRawValue => "duplicate_raw_value"

/-- The fault with a given name. -/
def ofName? (name : String) : Option Fault :=
  [notAnEnum, invalidRawValue, rawValueMismatch, invalidVariantRawValue, duplicateRawValue].find?
    fun fault => fault.name == name

@[simp] theorem ofName?_name (fault : Fault) : ofName? fault.name = some fault := by
  cases fault <;> rfl

/-- The stable identifier of a fault. -/
def id (fault : Fault) : String := "safe_decode::" ++ fault.name

end Fault

/-- A fault and the piece of source that it is about. -/
structure Diagnostic where
  fault : Fault
  span : Span
deriving DecidableEq, Repr

namespace Diagnostic

/-- The message of the fault. -/
def message (d : Diagnostic) : String := d.fault.message

/-- The diagnostic as one line of text. -/
def display (d : Diagnostic) : String := "error[" ++ d.fault.id ++ "]: " ++ d.message

/-- The code that makes a compiler report the fault. -/
def compileError (d : Diagnostic) : List Token :=
  Token.operator "::" ++ [.word "core"] ++ Token.operator "::" ++ [.word "compile_error"] ++
    Token.operator "!" ++ Token.braces [.lit (Text.quoted d.message)]

end Diagnostic

end FallbackEnum
