import FallbackEnum.Arguments.Basic
import FallbackEnum.Diagnostic
import FallbackEnum.Text.UpperCase

/-!
# Configuration

The arguments of an expansion, completed by defaults for the kind of the enum.
-/

namespace FallbackEnum

/-- What an expansion goes by: the name of the fallback, its raw value, and the kind of the
enum. -/
structure Configuration where
  fallbackName : Name
  fallback : RawValue
  kind : RawKind
deriving DecidableEq, Repr

namespace Configuration

/-- The name of the fallback as it is spelled. -/
def safeCase (config : Configuration) : String := config.fallbackName.text

/-- The name of the fallback unless one is given. -/
def defaultName : Name := { text := "Unknown" }

/-- The default name as it is spelled. -/
def defaultSafeCase : String := defaultName.text

/-- The raw value of a fallback unless one is given: its name in upper case, or minus one. -/
def defaultFallback (safeCase : String) : RawKind → RawValue
  | .integer => .integer (-1)
  | .text => .text (Text.upperCase (Keyword.unraw safeCase))

/-- Complete the arguments for an enum of a kind. A raw value of the other kind is a fault, which
is reported at `anchor`. -/
def resolve (kind : RawKind) (args : Arguments) (anchor : Span) :
    Except Diagnostic Configuration :=
  let name := args.fallbackName.getD defaultName
  match args.rawValue with
  | some value =>
    if value.kind = kind then .ok ⟨name, value, kind⟩
    else .error ⟨.rawValueMismatch, anchor⟩
  | none => .ok ⟨name, defaultFallback name.text kind, kind⟩

end Configuration

end FallbackEnum
