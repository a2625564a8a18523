import FallbackEnum.Proofs.Outcome
import FallbackEnum.Proofs.Stripping
import Mathlib.Data.List.Forall2

/-!
# What an expansion depends on

An expansion looks for the first `repr` among the attributes of an enum, collects its attributes
`derive`, and goes through the names, the discriminants and the shapes of its variants. Two enums
that are `DeclaredAlike` agree in this and may differ in all else: other attributes may stand
anywhere, a further `repr` may follow the first one, and variants may carry other attributes and
other fields. The main result is that such enums expand to the same declarations, or fail with
the same fault.
-/

namespace FallbackEnum

/-! ### Variants that are declared alike -/

/-- The variants have the same name and the same discriminant, and both carry fields or neither
does. -/
structure Variant.DeclaredAlike (v w : Variant) : Prop where
  name : w.name = v.name
  discriminant : w.discriminant = v.discriminant
  isUnit : w.fields.isUnit = v.fields.isUnit

namespace Variant.DeclaredAlike

lemma fits_eq {v w : Variant} (h : v.DeclaredAlike w) (kind : RawKind) :
    w.fits kind = v.fits kind := by
  simp only [fits, discriminantFits, textLiteral?, h.isUnit, h.discriminant]

/-- Without fields there is nothing left in which the variants differ but their attributes. -/
lemma plain_eq {v w : Variant} (h : v.DeclaredAlike w) (hunit : v.fields.isUnit = true) :
    w.plain = v.plain := by
  have hv : v.fields = .unit := Fields.isUnit_iff.mp hunit
  have hw : w.fields = .unit := Fields.isUnit_iff.mp (h.isUnit.trans hunit)
  have hident : w.ident = v.ident := Name.ext h.name
  rw [plain, plain, hident, h.discriminant, hv, hw]

variable {vs ws : List Variant}

lemma all_fit_iff (h : List.Forall₂ Variant.DeclaredAlike vs ws) (kind : RawKind) :
    (∀ w ∈ ws, w.fits kind = true) ↔ ∀ v ∈ vs, v.fits kind = true := by
  induction h with
  | nil => rfl
  | cons hvw _ ih => simp only [List.forall_mem_cons, hvw.fits_eq kind, ih]

lemma map_plain_eq (h : List.Forall₂ Variant.DeclaredAlike vs ws)
    (hunit : ∀ v ∈ vs, v.fields.isUnit = true) : ws.map plain = vs.map plain := by
  induction h with
  | nil => rfl
  | cons hvw _ ih =>
    obtain ⟨hv, hvs⟩ := List.forall_mem_cons.mp hunit
    rw [List.map_cons, List.map_cons, hvw.plain_eq hv, ih hvs]

end Variant.DeclaredAlike

/-! ### Enums that are declared alike -/

namespace EnumDecl

/-- The declarations agree in their name, in the variants up to attributes and what fields they
carry, in the first `repr`, if there is one, and in the sequence of the attributes `derive`. -/
structure DeclaredAlike (decl other : EnumDecl) : Prop where
  name : other.name = decl.name
  variants : List.Forall₂ Variant.DeclaredAlike decl.variants other.variants
  repr : ∀ attr, other.FirstRepr attr ↔ decl.FirstRepr attr
  derives : other.attrs.filter (·.isNamed "derive") = decl.attrs.filter (·.isNamed "derive")

lemma conformances_eq_derives (decl : EnumDecl) :
    decl.conformances =
      (decl.attrs.filter (·.isNamed "derive")).flatMap Attribute.traitNames := by
  rw [conformances_eq, Attribute.flatMap_traitNames_filter _ fun _ hother => hother]

/-- Enums of the same shape get the same declarations if both or neither of them derive their
decoding. -/
lemma SameShape.generate_eq {decl other : EnumDecl} (h : decl.SameShape other)
    (hdecoding : other.declaresDecoding = decl.declaresDecoding) (config : Configuration) :
    other.generate config = decl.generate config := by
  simp only [generate, extension?, deriveReplacement?, h.missingFallback?, h.lookup, h.name,
    hdecoding]

namespace DeclaredAlike

variable {decl other : EnumDecl}

lemma rawKind?_eq (h : decl.DeclaredAlike other) : other.rawKind? = decl.rawKind? := by
  have hrepr : other.attrs.find? (·.isNamed "repr") = decl.attrs.find? (·.isNamed "repr") := by
    apply Option.ext
    intro attr
    rw [← firstRepr_iff_find?, ← firstRepr_iff_find?]
    exact h.repr attr
  rw [rawKind?, rawKind?, rawBase?, rawBase?, hrepr]

lemma declaresDecoding_eq (h : decl.DeclaredAlike other) :
    other.declaresDecoding = decl.declaresDecoding := by
  rw [declaresDecoding, declaresDecoding, conformances_eq_derives, conformances_eq_derives,
    h.derives]

/-- Once no variant has fields, the two have the same shape. -/
lemma sameShape (h : decl.DeclaredAlike other) {kind : RawKind}
    (hfits : ∀ v ∈ decl.variants, v.fits kind = true) : decl.SameShape other where
  name := h.name
  kind := h.rawKind?_eq
  variants := by
    refine Variant.DeclaredAlike.map_plain_eq h.variants fun v hv => ?_
    have hfit := hfits v hv
    rw [Variant.fits, Bool.and_eq_true] at hfit
    exact hfit.1

/-- The check finds the same fault in both, or none. -/
lemma validateFor_fault_eq (h : decl.DeclaredAlike other) (config : Configuration) :
    (other.validateFor config).mapError Diagnostic.fault =
      (decl.validateFor config).mapError Diagnostic.fault := by
  have hiff := Variant.DeclaredAlike.all_fit_iff h.variants config.kind
  rw [validateFor_fault, validateFor_fault]
  by_cases hfits : ∀ v ∈ decl.variants, v.fits config.kind = true
  · have hshape := h.sameShape hfits
    rw [if_pos hfits, if_pos (hiff.mpr hfits), hshape.texts, hshape.fallbackClashes]
  · -- a variant with fields ends the check before its fields could matter
    rw [if_neg hfits, if_neg (mt hiff.mp hfits)]

end DeclaredAlike

end EnumDecl

/-! ### Expansions of both -/

/-- The expansions give the same declarations and report the same faults, perhaps at other
places. -/
structure Expansion.SameUpToPlaces (e other : Expansion) : Prop where
  isSuccess : other.isSuccess = e.isSuccess
  faults : other.diagnostics.map Diagnostic.fault = e.diagnostics.map Diagnostic.fault
  members : other.members = e.members
  lookup : other.lookup = e.lookup
  extension : other.extension = e.extension
  deriveReplacement : other.deriveReplacement = e.deriveReplacement
  kind : other.kind = e.kind

/-- Enums that are declared alike expand to the same declarations, or fail with the same
fault. -/
theorem expand_sameUpToPlaces_of_declaredAlike {decl other : EnumDecl}
    (h : decl.DeclaredAlike other) (args : Arguments) :
    ((Item.enum decl).expand args).SameUpToPlaces ((Item.enum other).expand args) := by
  have hfaults : ((Item.enum other).expand args).diagnostics.map Diagnostic.fault =
      ((Item.enum decl).expand args).diagnostics.map Diagnostic.fault :=
    Item.faults_congr h.rawKind?_eq fun _ _ _ => h.validateFor_fault_eq _
  have hsame : ((Item.enum other).expand args).isSuccess =
      ((Item.enum decl).expand args).isSuccess := by
    have hempty := congrArg List.isEmpty hfaults
    rwa [List.isEmpty_map, List.isEmpty_map] at hempty
  cases hsuccess : ((Item.enum decl).expand args).isSuccess with
  | true =>
    obtain ⟨_, config, hitem, hexpands⟩ := Item.expand_isSuccess_iff.mp hsuccess
    cases hitem
    have hshape := h.sameShape (EnumDecl.validate_eq_ok_iff.mp hexpands.valid).1
    rw [hexpands.expand_eq, (hshape.expands hexpands).expand_eq,
      hshape.generate_eq h.declaresDecoding_eq]
    exact ⟨rfl, rfl, rfl, rfl, rfl, rfl, rfl⟩
  | false =>
    obtain ⟨d, hfailed⟩ := Item.exists_expand_eq_failed hsuccess
    obtain ⟨d', hfailed'⟩ := Item.exists_expand_eq_failed (hsame.trans hsuccess)
    rw [hfailed, hfailed'] at hfaults
    rw [hfailed, hfailed']
    exact ⟨rfl, hfaults, rfl, rfl, rfl, rfl, rfl⟩

/-- An enum of the catalog, now generic and with documentation and helper attributes. Its
attributes stand in another order, and a second `repr` asks for the other kind. -/
def bothDocumented : EnumDecl :=
  { Catalog.both.decl with
    attrs := [fallbackDoc, Catalog.reprAttribute .text, annotated.helper,
      Catalog.deriveAttribute ["Debug", "Serialize", "Deserialize"],
      Catalog.reprAttribute .integer]
    visibility := .inherited
    generics := Token.operator "<" ++ [.word "T"] ++ Token.operator ">"
    variants := Catalog.both.decl.variants.map fun v =>
      { v with attrs := [annotated.helper, fallbackDoc] } }

/-- It has the lookup that it had, its derived decoding is replaced, and a text that is taken is
refused as before. -/
theorem bothDocumented_expands_alike :
    Catalog.both.decl.DeclaredAlike bothDocumented ∧
      ((Item.enum bothDocumented).expand {}).lookup =
        some (.text "Both" [("Left", "Left"), ("Right", "R"), ("Unknown", "UNKNOWN")]) ∧
      ((Item.enum bothDocumented).expand {}).deriveReplacement = some ⟨"Both"⟩ ∧
      ((Item.enum bothDocumented).expand { rawValue := some (.text "R") }).diagnostics.map
        Diagnostic.fault = [.duplicateRawValue] := by
  have halike : Catalog.both.decl.DeclaredAlike bothDocumented := by
    refine ⟨rfl, .cons ⟨rfl, rfl, rfl⟩ (.cons ⟨rfl, rfl, rfl⟩ .nil), fun attr => ?_, rfl⟩
    rw [EnumDecl.firstRepr_iff_find?, EnumDecl.firstRepr_iff_find?]
    rfl
  have hexpand := expand_sameUpToPlaces_of_declaredAlike halike
  refine ⟨halike, (hexpand {}).lookup.trans ?_, (hexpand {}).deriveReplacement.trans ?_,
    (hexpand { rawValue := some (.text "R") }).faults.trans ?_⟩
  · decide +kernel
  · decide +kernel
  · decide +kernel

end FallbackEnum
