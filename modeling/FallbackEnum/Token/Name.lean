import FallbackEnum.Token.Keyword
import FallbackEnum.Token.Literal

/-!
# Names

Identifiers are spelled with a raw mark `r#` or without one. A name is an identifier that is no
keyword; it carries the proof that it is one.
-/

namespace FallbackEnum

namespace Lexeme

/-- Names that cannot be written with a raw mark. -/
def unrawable : List String := ["_", "super", "self", "Self", "crate"]

/-- Split off the identifier at the front, with its raw mark `r#` if it has one. -/
def splitName? (cs : List Char) : Option (String × List Char) :=
  match cs with
  | 'r' :: '#' :: body =>
    match Literal.splitIdent? body with
    | some (name, rest) =>
      if unrawable.contains (String.ofList name) then none
      else some (String.ofList ('r' :: '#' :: name), rest)
    | none => none
  | _ => (Literal.splitIdent? cs).map fun (name, rest) => (String.ofList name, rest)

/-- The text is spelled as an identifier, with its raw mark if it has one. -/
def IsIdent (text : String) : Prop := splitName? text.toList = some (text, [])

instance (text : String) : Decidable (IsIdent text) :=
  inferInstanceAs (Decidable (splitName? text.toList = some (text, [])))

/-- The text is a name: spelled as an identifier, and no keyword. -/
def IsName (text : String) : Prop := IsIdent text ∧ Keyword.isReserved text = false

instance (text : String) : Decidable (IsName text) :=
  inferInstanceAs (Decidable (IsIdent text ∧ Keyword.isReserved text = false))

end Lexeme

/-- A name. -/
@[ext]
structure Name where
  text : String
  isName : Lexeme.IsName text := by decide +kernel
deriving DecidableEq, Repr

namespace Name

/-- The name with this text, if it is one. -/
def ofText? (text : String) : Option Name :=
  if h : Lexeme.IsName text then some ⟨text, h⟩ else none

theorem ofText?_eq_some_iff {text : String} {name : Name} :
    ofText? text = some name ↔ name.text = text := by
  unfold ofText?
  constructor
  · intro h
    split at h
    · cases h
      rfl
    · cases h
  · rintro rfl
    rw [dif_pos name.isName]

@[simp] theorem ofText?_text (name : Name) : ofText? name.text = some name :=
  ofText?_eq_some_iff.mpr rfl

end Name

end FallbackEnum
