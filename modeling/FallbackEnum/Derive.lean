import FallbackEnum.Analysis

/-!
# Taking decoding derives off an enum

An enum that decodes by its routine must not derive another way to decode. Its derive lists lose
the traits that decode; a list that loses all its traits goes. The helper attributes `serde` stay
only as long as a derived `Serialize` reads them.
-/

namespace FallbackEnum

/-- The traits of a list that do not decode. -/
def keptTraits (paths : List TraitPath) : List TraitPath :=
  paths.filter fun path => !isDecodingTrait path.last

namespace Attribute

/-- The attribute without its decoding traits; `none` if no trait is left. -/
def withoutDecoding? (attr : Attribute) : Option Attribute :=
  match attr.traits? with
  | none => some attr
  | some paths =>
    match keptTraits paths with
    | [] => none
    | kept => some { path := { segments := ["derive"] }, body := .traits kept }

/-- Does the attribute derive the trait that reads helper attributes? -/
def derivesSerialize (attr : Attribute) : Bool :=
  (attr.traits?.getD []).any fun path => path.last = "Serialize"

/-- Is this a helper attribute? -/
def isHelper (attr : Attribute) : Bool := attr.isNamed "serde"

end Attribute

namespace EnumDecl

/-- Remove the helper attributes of the enum and of its variants. -/
def dropHelpers (decl : EnumDecl) : EnumDecl :=
  { decl with
    attrs := decl.attrs.filter (!·.isHelper)
    variants := decl.variants.map fun v => { v with attrs := v.attrs.filter (!·.isHelper) } }

/-- Take the decoding derives off an enum. -/
def stripDecoding (decl : EnumDecl) : EnumDecl :=
  let stripped := { decl with attrs := decl.attrs.filterMap Attribute.withoutDecoding? }
  if decl.attrs.any Attribute.derivesSerialize then stripped else stripped.dropHelpers

end EnumDecl

end FallbackEnum
