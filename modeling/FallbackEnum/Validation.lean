import FallbackEnum.Analysis
import FallbackEnum.Diagnostic

/-!
# Validation

An enum of a raw kind has only unit variants, whose discriminants are of that kind. In a text
enum, no two variants share a text, and neither does a fallback that is going to be added.
-/

namespace FallbackEnum

namespace Variant

/-- Can the discriminant stand for a raw value of the kind? A missing one always can. -/
def discriminantFits (kind : RawKind) (v : Variant) : Bool :=
  match kind, v.discriminant with
  | _, none => true
  | .text, some _ => v.textLiteral?.isSome
  | .integer, some _ => v.textLiteral?.isNone

/-- Can the variant stand for a raw value of the kind? -/
def fits (kind : RawKind) (v : Variant) : Bool := v.fields.isUnit && v.discriminantFits kind

end Variant

/-- The first variant whose text is among those `seen` or that of an earlier variant. -/
def firstDuplicate? (seen : List String) : List Variant → Option Variant
  | [] => none
  | v :: rest =>
    if v.textValue ∈ seen then some v else firstDuplicate? (v.textValue :: seen) rest

namespace EnumDecl

/-- Does a text clash with a variant once a fallback of that name and text is added? A fallback
that is already declared is not added. -/
def fallbackClashes (decl : EnumDecl) (safeCase : String) (fallback : RawValue) : Bool :=
  match fallback with
  | .text literal =>
    !decl.hasVariant safeCase && decl.variants.any fun v => v.textValue = literal
  | .integer _ => false

/-- Check that the enum can be one of the kind with this fallback. -/
def validate (decl : EnumDecl) (kind : RawKind) (safeCase : String) (fallback : RawValue) :
    Except Diagnostic Unit :=
  match decl.variants.find? fun v => !v.fits kind with
  | some misfit => .error ⟨.invalidVariantRawValue, misfit.span⟩
  | none =>
    match kind with
    | .integer => .ok ()
    | .text =>
      match firstDuplicate? [] decl.variants with
      | some duplicate => .error ⟨.duplicateRawValue, duplicate.span⟩
      | none =>
        if decl.fallbackClashes safeCase fallback then .error ⟨.duplicateRawValue, decl.span⟩
        else .ok ()

end EnumDecl

end FallbackEnum
