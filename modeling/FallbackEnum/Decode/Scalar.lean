import FallbackEnum.Decode.Error
import FallbackEnum.RawValue

/-!
# Raw values from what was found

A text is accepted as such, and so are bytes that spell one. An integer is accepted if it has 64
bits; a float never is, even if its value is whole. Everything else is a mismatch.
-/

namespace FallbackEnum

namespace Found

/-- The text that was found. -/
def text? : Found → Except Mismatch String
  | text value => .ok value
  | bytes value =>
    match String.fromUTF8? ⟨value.toArray⟩ with
    | some s => .ok s
    | none => .error (.value (.bytes value) .text)
  | found => .error (.type found .text)

/-- The integer that was found. -/
def integer? : Found → Except Mismatch Int64
  | integer value =>
    match RawValue.int64? value with
    | some n => .ok n
    | none => .error (.value (.integer value) .integer)
  | found => .error (.type found .integer)

/-- The truth value that was found. -/
def boolean? : Found → Except Mismatch Bool
  | boolean value => .ok value
  | found => .error (.type found .boolean)

/-- The raw value of a kind that was found. -/
def rawValue? (kind : RawKind) (found : Found) : Except Mismatch RawValue :=
  match kind with
  | .text => found.text?.map .text
  | .integer => found.integer?.map .integer

end Found

end FallbackEnum
