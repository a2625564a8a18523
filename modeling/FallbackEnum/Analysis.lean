import FallbackEnum.Grammar.Item
import FallbackEnum.RawValue

/-!
# What a declaration says

The parts of an enum declaration that an expansion goes by: the raw kind it asks for with `repr`,
and the traits it derives.
-/

namespace FallbackEnum

namespace Attribute

/-- The metas in the arguments of an attribute, if all of them read as such. -/
def metas? (attr : Attribute) : Option (List Attribute) :=
  attr.arguments?.bind fun arguments => Grammar.readAll Grammar.metaList arguments

/-- The traits that an attribute derives, if it is a list of some. One that was not put together
is read from its arguments. -/
def traits? (attr : Attribute) : Option (List TraitPath) :=
  if attr.isNamed "derive" then
    match attr.body with
    | .traits paths => some paths
    | .list _ arguments => Grammar.readAll Grammar.pathList arguments
    | _ => none
  else none

end Attribute

/-- The traits that decode values on their own. -/
def decodingTraits : List String := ["Deserialize", "Deserialize_repr"]

/-- Does a trait of this name decode values? -/
def isDecodingTrait (name : String) : Bool := decodingTraits.contains name

namespace EnumDecl

/-- The name of the raw kind: the first entry of the first `repr`. -/
def rawBase? (decl : EnumDecl) : Option String := do
  let repr ← decl.attrs.find? (·.isNamed "repr")
  let entries ← repr.metas?
  let first ← entries.head?
  first.path.name?

/-- The raw kind, if the declaration names a supported one. -/
def rawKind? (decl : EnumDecl) : Option RawKind := decl.rawBase?.bind RawKind.ofTypeName?

/-- The names of the derived traits, in order and as often as they are derived. -/
def conformances (decl : EnumDecl) : List String :=
  decl.attrs.flatMap fun attr => (attr.traits?.getD []).map TraitPath.last

/-- Does the declaration derive a trait that decodes values? -/
def declaresDecoding (decl : EnumDecl) : Bool := decl.conformances.any isDecodingTrait

end EnumDecl

end FallbackEnum
