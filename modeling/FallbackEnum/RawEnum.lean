import FallbackEnum.Expansion
import FallbackEnum.Numbering

/-!
# Enums at work

What an expanded enum does when it runs: it finds the variant of a raw value, gives the raw value
of a variant, and puts the fallback in the place of values that no variant has.
-/

namespace FallbackEnum

/-- An expanded enum. -/
structure RawEnum where
  /-- The full path of its type. -/
  path : String
  routine : DecodeRoutine
  lookup : RawLookup
  /-- The numbers of its variants. -/
  numbers : List (String × Int)

namespace RawEnum

/-- The enum that an expansion makes of a declaration in some module. -/
def ofExpansion? (modulePath : String) (valuation : List Token → Int) (decl : EnumDecl)
    (expansion : Expansion) : Option RawEnum := do
  let routine ← expansion.routines.head?
  let lookup ← expansion.lookup
  return {
    path := modulePath ++ "::" ++ decl.name
    routine := routine
    lookup := lookup
    numbers := (decl.applied expansion).numbering valuation }

/-- The scalar type behind all variants. -/
def kind (e : RawEnum) : RawKind := e.routine.kind

/-- The variant that stands for unrecognized raw values. -/
def safeCase (e : RawEnum) : String := e.routine.safeCase

/-- The number of a variant. -/
def number (e : RawEnum) (variant : String) : Int64 :=
  Int64.ofInt ((e.numbers.lookup variant).getD 0)

/-! ### Lookup -/

/-- The variants in order. -/
def variants (e : RawEnum) : List String := e.lookup.variantNames

/-- The variant that goes by a name, in code spelled raw or not. -/
def variant? (e : RawEnum) (name : String) : Option String :=
  e.variants.find? fun variant => Keyword.unraw variant = name

/-- The variant with a raw value. -/
def fromRaw? (e : RawEnum) (value : RawValue) : Option String := e.lookup.fromRaw? e.number value

/-- The raw value of a variant. -/
def rawValue? (e : RawEnum) (variant : String) : Option RawValue :=
  e.lookup.rawValue? e.number variant

/-- The variant with a raw value, or else the given fallback. In the second case the raw value is
noted as unrecognized. -/
def settle (e : RawEnum) (value : RawValue) (fallback : String) : String × List RawValue :=
  match e.fromRaw? value with
  | some variant => (variant, [])
  | none => (fallback, [value])

/-- All variants with their raw values and what is found by these. -/
def table (e : RawEnum) : List (String × RawValue × Option String) :=
  e.variants.filterMap fun variant =>
    (e.rawValue? variant).map fun value => (variant, value, e.fromRaw? value)

/-! ### Logging -/

/-- The line that is logged when a raw value is not recognized. -/
def logLine (e : RawEnum) (value : RawValue) : String :=
  let shown :=
    match value with
    | .text s => Text.shown s
    | .integer n => toString n.toInt
  "DEBUG safe_decode::raw: unrecognized raw value " ++ shown ++ " for " ++ e.path ++
    ", using fallback"

end RawEnum

namespace RawKind

/-- The raw value of a kind that a text denotes: the text itself, or the integer of its
digits. -/
def read? (kind : RawKind) (text : String) : Option RawValue :=
  match kind with
  | .text => some (.text text)
  | .integer => RawValue.ofDecimal? text

end RawKind

end FallbackEnum
