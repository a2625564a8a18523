import FallbackEnum.Catalog
import FallbackEnum.Proofs.Expansion

/-!
# Stripping derives

Stripping changes nothing that an expansion reads, apart from the traits that it takes off: the
raw kind and the variants stay as they are. It also commutes with the other edits of a rendering.
So an enum that derives its decoding is rendered like the enum that was stripped before.
-/

namespace FallbackEnum

/-! ### Attributes -/

lemma ModPath.isName_iff {path : ModPath} {name : String} :
    path.isName name = true ↔ path = { segments := [name] } := by
  rw [isName, decide_eq_true_eq]
  constructor
  · intro h
    obtain ⟨leading, segments⟩ := path
    unfold name? at h
    split at h
    · rename_i hleading hsegments
      cases h
      cases hleading
      cases hsegments
      rfl
    · cases h
  · rintro rfl
    rfl

namespace Attribute

lemma isNamed_iff {attr : Attribute} {name : String} :
    attr.isNamed name = true ↔ attr.path = { segments := [name] } := ModPath.isName_iff

lemma isNamed_eq_false {attr : Attribute} {name other : String}
    (hname : attr.isNamed name = true) (hne : name ≠ other) : attr.isNamed other = false := by
  rw [← Bool.not_eq_true, isNamed_iff, isNamed_iff.mp hname]
  simpa using hne

lemma traits?_of_not_derive {attr : Attribute} (h : attr.isNamed "derive" = false) :
    attr.traits? = none := by
  rw [traits?, h, if_neg Bool.false_ne_true]

lemma traits?_eq_none {attr : Attribute} {name : String} (hname : attr.isNamed name = true)
    (hne : name ≠ "derive") : attr.traits? = none :=
  traits?_of_not_derive (isNamed_eq_false hname hne)

lemma isNamed_derive {attr : Attribute} {paths : List TraitPath}
    (h : attr.traits? = some paths) :
    attr.isNamed "derive" = true := by
  rw [traits?] at h
  split_ifs at h with hname
  exact hname

/-- The names of the traits that an attribute derives. -/
def traitNames (attr : Attribute) : List String := (attr.traits?.getD []).map TraitPath.last

lemma traitNames_of_not_derive {attr : Attribute} (h : attr.isNamed "derive" = false) :
    attr.traitNames = [] := by
  rw [traitNames, traits?_of_not_derive h]
  rfl

/-- Attributes that are no `derive` may be left out where traits are collected. -/
lemma flatMap_traitNames_filter {p : Attribute → Bool} (attrs : List Attribute)
    (h : ∀ attr, p attr = false → attr.isNamed "derive" = false) :
    (attrs.filter p).flatMap traitNames = attrs.flatMap traitNames := by
  induction attrs with
  | nil => rfl
  | cons attr attrs ih =>
    cases hp : p attr with
    | true => simp [hp, ih]
    | false => simp [hp, ih, traitNames_of_not_derive (h attr hp)]

/-- The list of traits without those that decode, in its place. -/
def listing (kept : List TraitPath) : Attribute :=
  { path := { segments := ["derive"] }, body := .traits kept }

@[simp] lemma traits?_listing (kept : List TraitPath) : (listing kept).traits? = some kept := rfl

lemma withoutDecoding?_of_traits?_eq_none {attr : Attribute} (h : attr.traits? = none) :
    attr.withoutDecoding? = some attr := by
  rw [withoutDecoding?, h]

lemma withoutDecoding?_of_traits? {attr : Attribute} {paths : List TraitPath}
    (h : attr.traits? = some paths) :
    attr.withoutDecoding? =
      if keptTraits paths = [] then none else some (listing (keptTraits paths)) := by
  rw [withoutDecoding?, h]
  dsimp only
  split
  · rename_i hkept
    rw [if_pos hkept]
  · rename_i hkept
    rw [if_neg hkept, listing]

lemma withoutDecoding?_path {attr kept : Attribute} (h : attr.withoutDecoding? = some kept) :
    kept.path = attr.path := by
  cases htraits : attr.traits? with
  | none =>
    rw [withoutDecoding?_of_traits?_eq_none htraits] at h
    cases h
    rfl
  | some paths =>
    rw [withoutDecoding?_of_traits? htraits] at h
    split_ifs at h
    cases h
    exact (isNamed_iff.mp (isNamed_derive htraits)).symm

/-- Of the traits, exactly those that decode go. -/
lemma traitNames_withoutDecoding? (attr : Attribute) :
    attr.withoutDecoding?.toList.flatMap traitNames =
      attr.traitNames.filter (!isDecodingTrait ·) := by
  cases htraits : attr.traits? with
  | none =>
    rw [withoutDecoding?_of_traits?_eq_none htraits]
    simp [traitNames, htraits]
  | some paths =>
    have hnames : (keptTraits paths).map TraitPath.last =
        (paths.map TraitPath.last).filter (!isDecodingTrait ·) := by
      rw [keptTraits, List.filter_map]
      rfl
    rw [withoutDecoding?_of_traits? htraits, traitNames, htraits, Option.getD_some, ← hnames]
    split_ifs with hkept
    · rw [hkept]
      rfl
    · simp [traitNames]

/-! ### Stripped attributes -/

/-- What stripping makes of an attribute of an enum, where the helper attributes stay or go. -/
def stripped? (helpers : Bool) (attr : Attribute) : Option Attribute :=
  attr.withoutDecoding?.filter fun kept => helpers || !kept.isHelper

lemma stripped?_of_isNamed {attr : Attribute} {name : String} (helpers : Bool)
    (hname : attr.isNamed name = true) (hderive : name ≠ "derive") (hserde : name ≠ "serde") :
    attr.stripped? helpers = some attr := by
  have hhelper : attr.isHelper = false := isNamed_eq_false hname hserde
  rw [stripped?, withoutDecoding?_of_traits?_eq_none (traits?_eq_none hname hderive)]
  simp [hhelper]

lemma stripped?_path {helpers : Bool} {attr kept : Attribute}
    (h : attr.stripped? helpers = some kept) : kept.path = attr.path :=
  withoutDecoding?_path (Option.filter_eq_some_iff.mp h).1

lemma traitNames_of_isHelper {attr : Attribute} (h : attr.isHelper = true) :
    attr.traitNames = [] :=
  traitNames_of_not_derive (isNamed_eq_false h (by decide))

lemma traitNames_stripped? (helpers : Bool) (attr : Attribute) :
    (attr.stripped? helpers).toList.flatMap traitNames =
      attr.traitNames.filter (!isDecodingTrait ·) := by
  rw [← traitNames_withoutDecoding?, stripped?]
  cases attr.withoutDecoding? with
  | none => rfl
  | some kept =>
    rw [Option.filter_some]
    split_ifs with hstays
    · rfl
    · -- a helper that goes derives nothing
      rw [Bool.or_eq_true, not_or, Bool.not_eq_true', Bool.not_eq_false] at hstays
      simp [traitNames_of_isHelper hstays.2]

end Attribute

/-! ### Stripped declarations -/

/-- The variant with its helper attributes, or without them. -/
def Variant.withHelpers (helpers : Bool) (v : Variant) : Variant :=
  { v with attrs := v.attrs.filter fun attr => helpers || !attr.isHelper }

namespace EnumDecl

/-- Is there a derived trait that reads the helper attributes? -/
def keepsHelpers (decl : EnumDecl) : Bool := decl.attrs.any Attribute.derivesSerialize

/-- Stripping treats all attributes alike, and all variants. -/
lemma stripDecoding_eq (decl : EnumDecl) :
    decl.stripDecoding =
      { decl with
        attrs := decl.attrs.filterMap (Attribute.stripped? decl.keepsHelpers)
        variants := decl.variants.map (Variant.withHelpers decl.keepsHelpers) } := by
  have hstripped : Attribute.stripped? decl.keepsHelpers = fun attr =>
      attr.withoutDecoding?.filter fun kept => decl.keepsHelpers || !kept.isHelper := rfl
  have hvariant : Variant.withHelpers decl.keepsHelpers = fun v =>
      { v with attrs := v.attrs.filter fun attr => decl.keepsHelpers || !attr.isHelper } := rfl
  rw [hstripped, hvariant, ← List.filter_filterMap, stripDecoding]
  cases hkeeps : decl.keepsHelpers with
  | true =>
    rw [keepsHelpers] at hkeeps
    simp [hkeeps]
  | false =>
    rw [keepsHelpers] at hkeeps
    simp [hkeeps, dropHelpers]

@[simp] lemma stripDecoding_name (decl : EnumDecl) : decl.stripDecoding.name = decl.name := by
  rw [stripDecoding_eq, name, name]

/-- The first `repr` is found where it was. -/
lemma find?_repr_stripDecoding (decl : EnumDecl) :
    decl.stripDecoding.attrs.find? (·.isNamed "repr") =
      decl.attrs.find? (·.isNamed "repr") := by
  have hany : ∀ attr : Attribute,
      (attr.stripped? decl.keepsHelpers).any (·.isNamed "repr") = attr.isNamed "repr" := by
    intro attr
    cases hname : attr.isNamed "repr" with
    | true => simp [Attribute.stripped?_of_isNamed _ hname, hname]
    | false =>
      cases hkept : attr.stripped? decl.keepsHelpers with
      | none => rfl
      | some kept =>
        rw [Option.any_some, Attribute.isNamed, Attribute.stripped?_path hkept]
        exact hname
  rw [stripDecoding_eq, List.find?_filterMap]
  simp only [hany]
  cases hrepr : decl.attrs.find? (·.isNamed "repr") with
  | none => rfl
  | some repr =>
    have hname := List.find?_some hrepr
    exact Attribute.stripped?_of_isNamed _ hname (by decide) (by decide)

lemma rawKind?_stripDecoding (decl : EnumDecl) :
    decl.stripDecoding.rawKind? = decl.rawKind? := by
  simp only [rawKind?, rawBase?, find?_repr_stripDecoding]

lemma conformances_eq (decl : EnumDecl) :
    decl.conformances = decl.attrs.flatMap Attribute.traitNames := rfl

/-- A stripped enum derives the traits that do not decode, in order and as often as before. -/
lemma conformances_stripDecoding (decl : EnumDecl) :
    decl.stripDecoding.conformances = decl.conformances.filter (!isDecodingTrait ·) := by
  rw [conformances_eq, conformances_eq, stripDecoding_eq, List.filterMap_eq_flatMap_toList,
    List.flatMap_assoc, List.filter_flatMap]
  simp only [Attribute.traitNames_stripped?]

lemma declaresDecoding_stripDecoding (decl : EnumDecl) :
    decl.stripDecoding.declaresDecoding = false := by
  rw [declaresDecoding, conformances_stripDecoding]
  simp

/-! ### Stripping and other edits -/

lemma stripDecoding_push (decl : EnumDecl) (v : Variant) :
    (decl.push v).stripDecoding = decl.stripDecoding.push (v.withHelpers decl.keepsHelpers) := by
  have hkeeps : (decl.push v).keepsHelpers = decl.keepsHelpers := rfl
  simp only [stripDecoding_eq, hkeeps]
  simp [push]

lemma keepsHelpers_dropRawValues (decl : EnumDecl) :
    decl.dropRawValues.keepsHelpers = decl.keepsHelpers := by
  rw [keepsHelpers, dropRawValues, List.any_filter, keepsHelpers]
  refine List.any_congr rfl fun attr => ?_
  cases hname : attr.isNamed "repr" with
  | false => rfl
  | true => simp [Attribute.derivesSerialize, Attribute.traits?_eq_none hname]

lemma stripDecoding_dropRawValues (decl : EnumDecl) :
    decl.dropRawValues.stripDecoding = decl.stripDecoding.dropRawValues := by
  have hattrs : (decl.attrs.filter (!·.isNamed "repr")).filterMap
        (Attribute.stripped? decl.keepsHelpers) =
      (decl.attrs.filterMap (Attribute.stripped? decl.keepsHelpers)).filter
        (!·.isNamed "repr") := by
    rw [List.filterMap_filter, List.filter_filterMap]
    refine List.filterMap_congr fun attr _ => ?_
    cases hkept : attr.stripped? decl.keepsHelpers with
    | none => simp
    | some kept =>
      have hname : kept.isNamed "repr" = attr.isNamed "repr" := by
        rw [Attribute.isNamed, Attribute.stripped?_path hkept, Attribute.isNamed]
      rw [Option.filter_some, hname]
  rw [stripDecoding_eq, keepsHelpers_dropRawValues, stripDecoding_eq]
  simp only [dropRawValues, hattrs, List.map_map]
  rfl

end EnumDecl

lemma Configuration.fallbackVariant_withHelpers (config : Configuration) (helpers : Bool) :
    config.fallbackVariant.withHelpers helpers = config.fallbackVariant := by
  cases helpers <;> rfl

/-! ### What an expansion reads -/

/-- Where a mismatch would be reported does not matter if there is none. -/
lemma Configuration.resolve_anchor {kind : RawKind} {args : Arguments} {anchor : Span}
    {config : Configuration} (other : Span) (h : resolve kind args anchor = .ok config) :
    resolve kind args other = .ok config := by
  cases hvalue : args.rawValue with
  | none => simpa only [resolve, hvalue] using h
  | some value =>
    simp only [resolve, hvalue] at h ⊢
    split_ifs at h ⊢
    exact h

/-- The variant without its attributes and its place. -/
def Variant.plain (v : Variant) : Variant :=
  { ident := v.ident, fields := v.fields, discriminant := v.discriminant }

lemma Variant.map_eq_of_plain {β : Type} {vs ws : List Variant} (f : Variant → β)
    (hf : ∀ v, f v.plain = f v) (h : vs.map Variant.plain = ws.map Variant.plain) :
    vs.map f = ws.map f := by
  have hmap := congrArg (List.map f) h
  simpa only [List.map_map, Function.comp_def, hf] using hmap

namespace EnumDecl

/-- The declarations agree in all that an expansion reads besides the derived traits. -/
structure SameShape (decl other : EnumDecl) : Prop where
  name : other.name = decl.name
  kind : other.rawKind? = decl.rawKind?
  variants : other.variants.map Variant.plain = decl.variants.map Variant.plain

namespace SameShape

variable {decl other : EnumDecl} {args : Arguments} {config : Configuration}

lemma symm (h : decl.SameShape other) : other.SameShape decl :=
  ⟨h.name.symm, h.kind.symm, h.variants.symm⟩

lemma names (h : decl.SameShape other) :
    other.variants.map Variant.name = decl.variants.map Variant.name :=
  Variant.map_eq_of_plain _ (fun _ => rfl) h.variants

lemma texts (h : decl.SameShape other) :
    other.variants.map Variant.textValue = decl.variants.map Variant.textValue :=
  Variant.map_eq_of_plain _ (fun _ => rfl) h.variants

lemma hasVariant (h : decl.SameShape other) (name : String) :
    other.hasVariant name = decl.hasVariant name := by
  rw [Bool.eq_iff_iff, hasVariant_iff, hasVariant_iff, h.names]

lemma missingFallback? (h : decl.SameShape other) (config : Configuration) :
    other.missingFallback? config = decl.missingFallback? config := by
  rw [EnumDecl.missingFallback?, EnumDecl.missingFallback?, h.hasVariant]

lemma fallbackClashes (h : decl.SameShape other) (safeCase : String) (fallback : RawValue) :
    other.fallbackClashes safeCase fallback = decl.fallbackClashes safeCase fallback := by
  have hany : ∀ literal, (other.variants.any fun v => decide (v.textValue = literal)) =
      decl.variants.any fun v => decide (v.textValue = literal) := by
    intro literal
    have hmap := congrArg (List.any · fun text => decide (text = literal)) h.texts
    simpa only [List.any_map, Function.comp_def] using hmap
  cases fallback with
  | integer n => rfl
  | text literal =>
    rw [EnumDecl.fallbackClashes, EnumDecl.fallbackClashes, h.hasVariant, hany]

lemma fits (h : decl.SameShape other) (kind : RawKind)
    (hfits : ∀ v ∈ decl.variants, v.fits kind = true) :
    ∀ v ∈ other.variants, v.fits kind = true := by
  intro v hv
  have hmap : other.variants.map (Variant.fits kind) = decl.variants.map (Variant.fits kind) :=
    Variant.map_eq_of_plain _ (fun _ => rfl) h.variants
  have hmem : v.fits kind ∈ decl.variants.map (Variant.fits kind) := by
    rw [← hmap]
    exact List.mem_map_of_mem hv
  obtain ⟨w, hw, hwv⟩ := List.mem_map.mp hmem
  rw [← hwv]
  exact hfits w hw

/-- What expands one of two declarations of the same shape expands the other. -/
lemma expands (h : decl.SameShape other) (hexpands : decl.Expands args config) :
    other.Expands args config where
  kind := h.kind.trans hexpands.kind
  resolved := Configuration.resolve_anchor other.span hexpands.resolved
  valid := by
    obtain ⟨hfits, htexts⟩ := validate_eq_ok_iff.mp hexpands.valid
    rw [validate_eq_ok_iff, h.texts, h.fallbackClashes]
    exact ⟨h.fits _ hfits, htexts⟩

lemma lookup (h : decl.SameShape other) (config : Configuration) :
    other.lookup config = decl.lookup config := by
  have harms : other.variants.map (fun v => (v.name, v.textValue)) =
      decl.variants.map fun v => (v.name, v.textValue) :=
    Variant.map_eq_of_plain _ (fun _ => rfl) h.variants
  simp only [EnumDecl.lookup, fallbackArm, h.name, h.names, h.hasVariant, harms]

end SameShape

/-- Declarations of one raw kind complete the same arguments to the same configuration. -/
lemma Expands.config_eq {decl other : EnumDecl} {args : Arguments} {config again : Configuration}
    (h : decl.Expands args config) (hagain : other.Expands args again)
    (hkind : other.rawKind? = decl.rawKind?) : again = config := by
  rw [hagain.kind, h.kind, Option.some.injEq] at hkind
  have hresolved := Configuration.resolve_anchor other.span h.resolved
  rw [← hkind, hagain.resolved] at hresolved
  exact Except.ok.inj hresolved

lemma sameShape_stripDecoding (decl : EnumDecl) : decl.SameShape decl.stripDecoding where
  name := stripDecoding_name decl
  kind := rawKind?_stripDecoding decl
  variants := by
    rw [stripDecoding_eq, List.map_map]
    rfl

end EnumDecl

lemma Item.fallbackVariant?_congr {decl other : EnumDecl} {args : Arguments}
    (hkind : other.rawKind? = decl.rawKind?)
    (hdeclared : ∀ name, other.hasVariant name = decl.hasVariant name)
    (hsuccess : ((Item.enum other).expand args).isSuccess =
      ((Item.enum decl).expand args).isSuccess) :
    ((Item.enum other).expand args).fallbackVariant? =
      ((Item.enum decl).expand args).fallbackVariant? := by
  cases hfirst : ((Item.enum decl).expand args).isSuccess with
  | false =>
    rw [fallbackVariant?_of_not_isSuccess hfirst,
      fallbackVariant?_of_not_isSuccess (hsuccess.trans hfirst)]
  | true =>
    obtain ⟨_, config, hitem, h⟩ := expand_isSuccess_iff.mp hfirst
    cases hitem
    obtain ⟨_, again, hitem, hagain⟩ := expand_isSuccess_iff.mp (hsuccess.trans hfirst)
    cases hitem
    cases h.config_eq hagain hkind
    rw [h.expand_eq, hagain.expand_eq, EnumDecl.generate_fallbackVariant?,
      EnumDecl.generate_fallbackVariant?, EnumDecl.missingFallback?, EnumDecl.missingFallback?,
      hdeclared]

/-! ### Rendering a stripped enum -/

namespace EnumDecl

/-- Rendering adds a missing fallback, drops the texts of a text enum, and strips derived
decoding. -/
lemma applied_generate (decl : EnumDecl) (config : Configuration) :
    decl.applied (decl.generate config) =
      let extended := decl.extendedBy (decl.missingFallback? config)
      let untexted := if config.kind = .text then extended.dropRawValues else extended
      if decl.declaresDecoding then untexted.stripDecoding else untexted := by
  have hreplaced : (decl.generate config).deriveReplacement.isSome = decl.declaresDecoding := by
    cases hdecoding : decl.declaresDecoding <;> simp [generate, deriveReplacement?, hdecoding]
  rw [applied_eq, generate_fallbackVariant?, generate_kind, hreplaced]
  simp only [Option.some.injEq]

lemma extendedBy_stripDecoding (decl : EnumDecl) (config : Configuration) :
    (decl.extendedBy (decl.missingFallback? config)).stripDecoding =
      decl.stripDecoding.extendedBy (decl.missingFallback? config) := by
  cases hdeclared : decl.hasVariant config.safeCase with
  | true => simp [missingFallback?, hdeclared, extendedBy]
  | false =>
    simp only [missingFallback?, hdeclared, if_neg Bool.false_ne_true, extendedBy,
      Option.elim_some, stripDecoding_push, Configuration.fallbackVariant_withHelpers]

/-- Stripping last, as a rendering does, or stripping first gives the same enum. -/
lemma applied_stripDecoding {decl : EnumDecl} (config : Configuration)
    (hderives : decl.declaresDecoding = true) :
    decl.stripDecoding.applied (decl.stripDecoding.generate config) =
      decl.applied (decl.generate config) := by
  rw [applied_generate, applied_generate, hderives, declaresDecoding_stripDecoding,
    decl.sameShape_stripDecoding.missingFallback?, ← extendedBy_stripDecoding]
  dsimp only
  rw [if_pos rfl, if_neg Bool.false_ne_true]
  split_ifs
  · rw [stripDecoding_dropRawValues]
  · rfl

lemma conformances_extendedBy (decl : EnumDecl) (added : Option Variant) :
    (decl.extendedBy added).conformances = decl.conformances := by
  cases added <;> rfl

lemma conformances_dropRawValues (decl : EnumDecl) :
    decl.dropRawValues.conformances = decl.conformances := by
  rw [conformances_eq, conformances_eq, dropRawValues]
  refine Attribute.flatMap_traitNames_filter decl.attrs fun attr hrepr => ?_
  rw [Bool.not_eq_false'] at hrepr
  exact Attribute.isNamed_eq_false hrepr (by decide)

/-- A rendered enum derives the traits that do not decode, in order and as often as before. -/
lemma conformances_applied (decl : EnumDecl) (config : Configuration) :
    (decl.applied (decl.generate config)).conformances =
      decl.conformances.filter (!isDecodingTrait ·) := by
  have huntexted : (if config.kind = .text
        then (decl.extendedBy (decl.missingFallback? config)).dropRawValues
        else decl.extendedBy (decl.missingFallback? config)).conformances =
      decl.conformances := by
    split_ifs
    · rw [conformances_dropRawValues, conformances_extendedBy]
    · rw [conformances_extendedBy]
  rw [applied_generate]
  dsimp only
  cases hdecoding : decl.declaresDecoding with
  | true => rw [if_pos rfl, conformances_stripDecoding, huntexted]
  | false =>
    -- there is nothing to strip, and nothing to filter out
    rw [if_neg Bool.false_ne_true, huntexted, eq_comm, List.filter_eq_self]
    simpa [declaresDecoding] using hdecoding

lemma declaresDecoding_applied (decl : EnumDecl) (config : Configuration) :
    (decl.applied (decl.generate config)).declaresDecoding = false := by
  rw [declaresDecoding, conformances_applied]
  simp

lemma rendering_stripDecoding {decl : EnumDecl} (config : Configuration)
    (hderives : decl.declaresDecoding = true) :
    decl.stripDecoding.rendering config = decl.rendering config := by
  simp only [rendering, applied_stripDecoding config hderives,
    decl.sameShape_stripDecoding.lookup, stripDecoding_name]

end EnumDecl

/-- An enum that derives its decoding is rendered to the same code whether the derive is replaced
by the expansion or was stripped before it. -/
theorem render_replaced_eq_stripped {decl : EnumDecl} {args : Arguments}
    (hderives : decl.declaresDecoding = true)
    (hsuccess : ((Item.enum decl).expand args).isSuccess = true) :
    ((Item.enum decl.stripDecoding).expand args).isSuccess = true ∧
      renderTokens ((Item.enum decl.stripDecoding).render
          ((Item.enum decl.stripDecoding).expand args)) =
        renderTokens ((Item.enum decl).render ((Item.enum decl).expand args)) := by
  obtain ⟨_, config, hitem, h⟩ := Item.expand_isSuccess_iff.mp hsuccess
  cases hitem
  have hstripped := decl.sameShape_stripDecoding.expands h
  refine ⟨Item.expand_isSuccess_iff.mpr ⟨_, config, rfl, hstripped⟩, ?_⟩
  rw [hstripped.render_eq, h.render_eq, EnumDecl.rendering_stripDecoding config hderives]

/-- An enum with two ways to decode, one of them in a list of its own, and with helper
attributes. -/
def annotated : EnumDecl where
  attrs := [Catalog.deriveAttribute ["Debug", "Deserialize", "Clone", "Debug"], helper,
    Catalog.deriveAttribute ["Deserialize_repr"], Catalog.reprAttribute .text]
  ident := { text := "Annotated" }
  variants := [{ Catalog.credit with attrs := [helper], discriminant := none }]
where
  /-- A helper attribute. -/
  helper : Attribute :=
    { path := { segments := ["serde"] }, body := .list .paren [.word "untagged"] }

theorem annotated_replaced_eq_stripped :
    annotated.declaresDecoding = true ∧
      ((Item.enum annotated).expand {}).isSuccess = true ∧
      annotated.stripDecoding.attrs.length = 2 ∧
      ((Item.enum annotated.stripDecoding).expand {}).isSuccess = true ∧
      renderTokens ((Item.enum annotated.stripDecoding).render
          ((Item.enum annotated.stripDecoding).expand {})) =
        renderTokens ((Item.enum annotated).render ((Item.enum annotated).expand {})) := by
  have hderives : annotated.declaresDecoding = true := by decide
  have hsuccess : ((Item.enum annotated).expand {}).isSuccess = true := by decide +kernel
  exact ⟨hderives, hsuccess, by decide, render_replaced_eq_stripped hderives hsuccess⟩

end FallbackEnum
