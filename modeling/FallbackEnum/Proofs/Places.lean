import FallbackEnum.Proofs.Stripping

/-!
# Places

An item that is printed and read again stands at other places, and a list of traits that was put
together is then one that was read. Nothing else changes. Items are `Alike` if they differ only
in this; then they have the same code, and all edits take them to items that are alike again.
-/

namespace FallbackEnum

/-! ### Attributes -/

namespace Attribute

/-- The attribute with its list of traits put together, if it is spelled like that. -/
def gathered (attr : Attribute) : Attribute :=
  match attr.traits? with
  | none => attr
  | some paths => if attr.metaTokens = (listing paths).metaTokens then listing paths else attr

lemma gathered_of_traits?_eq_none {attr : Attribute} (h : attr.traits? = none) :
    attr.gathered = attr := by
  rw [gathered, h]

lemma gathered_of_traits? {attr : Attribute} {paths : List TraitPath}
    (h : attr.traits? = some paths) :
    attr.gathered =
      if attr.metaTokens = (listing paths).metaTokens then listing paths else attr := by
  rw [gathered, h]

@[simp] lemma gathered_listing (paths : List TraitPath) :
    (listing paths).gathered = listing paths := by
  rw [gathered_of_traits? (traits?_listing paths), if_pos rfl]

@[simp] lemma path_gathered (attr : Attribute) : attr.gathered.path = attr.path := by
  cases htraits : attr.traits? with
  | none => rw [gathered_of_traits?_eq_none htraits]
  | some paths =>
    rw [gathered_of_traits? htraits]
    split_ifs
    · exact (isNamed_iff.mp (isNamed_derive htraits)).symm
    · rfl

@[simp] lemma isNamed_gathered (attr : Attribute) (name : String) :
    attr.gathered.isNamed name = attr.isNamed name := by
  rw [isNamed, path_gathered, isNamed]

@[simp] lemma traits?_gathered (attr : Attribute) : attr.gathered.traits? = attr.traits? := by
  cases htraits : attr.traits? with
  | none => rw [gathered_of_traits?_eq_none htraits, htraits]
  | some paths =>
    rw [gathered_of_traits? htraits]
    split_ifs
    · exact traits?_listing paths
    · exact htraits

@[simp] lemma tokens_gathered (attr : Attribute) : attr.gathered.tokens = attr.tokens := by
  cases htraits : attr.traits? with
  | none => rw [gathered_of_traits?_eq_none htraits]
  | some paths =>
    rw [gathered_of_traits? htraits]
    split_ifs with hspelled
    · rw [tokens, tokens, hspelled]
    · rfl

@[simp] lemma gathered_gathered (attr : Attribute) : attr.gathered.gathered = attr.gathered := by
  cases htraits : attr.traits? with
  | none => rw [gathered_of_traits?_eq_none htraits, gathered_of_traits?_eq_none htraits]
  | some paths =>
    rw [gathered_of_traits? htraits]
    split_ifs with hspelled
    · exact gathered_listing paths
    · rw [gathered_of_traits? htraits, if_neg hspelled]

lemma stripped?_gathered (helpers : Bool) (attr : Attribute) :
    (attr.gathered.stripped? helpers).map gathered = (attr.stripped? helpers).map gathered := by
  cases htraits : attr.traits? with
  | none =>
    have hgathered : attr.gathered.traits? = none := by rw [traits?_gathered, htraits]
    rw [stripped?, stripped?, withoutDecoding?_of_traits?_eq_none htraits,
      withoutDecoding?_of_traits?_eq_none hgathered, Option.filter_some, Option.filter_some,
      isHelper, isNamed_gathered, isHelper]
    split_ifs
    · rw [Option.map_some, Option.map_some, gathered_gathered]
    · rfl
  | some paths =>
    have hgathered : attr.gathered.traits? = some paths := by rw [traits?_gathered, htraits]
    rw [stripped?, stripped?, withoutDecoding?_of_traits? htraits,
      withoutDecoding?_of_traits? hgathered]

end Attribute

/-! ### Variants -/

namespace Variant

/-- The variant as it is read from its printed form, but without its place. -/
def unplaced (v : Variant) : Variant :=
  { v with attrs := v.attrs.map Attribute.gathered, span := Span.nowhere }

@[simp] lemma tokens_unplaced (v : Variant) : v.unplaced.tokens = v.tokens := by
  simp [tokens, name, unplaced, List.flatMap_map]

@[simp] lemma unplaced_unplaced (v : Variant) : v.unplaced.unplaced = v.unplaced := by
  simp [unplaced]

lemma unplaced_withHelpers (helpers : Bool) (v : Variant) :
    (v.withHelpers helpers).unplaced = v.unplaced.withHelpers helpers := by
  simp [unplaced, withHelpers, List.filter_map, Function.comp_def, Attribute.isHelper]

end Variant

/-! ### Enums -/

namespace EnumDecl

/-- The declaration as it is read from its printed form, but without places. -/
def unplaced (decl : EnumDecl) : EnumDecl :=
  { decl with
    attrs := decl.attrs.map Attribute.gathered
    variants := decl.variants.map Variant.unplaced
    span := Span.nowhere }

@[simp] lemma unplaced_unplaced (decl : EnumDecl) : decl.unplaced.unplaced = decl.unplaced := by
  simp [unplaced]

lemma tokens_unplaced (decl : EnumDecl) : decl.unplaced.tokens = decl.tokens := by
  simp [tokens, name, unplaced, List.flatMap_map, Function.comp_def]

lemma rawKind?_unplaced (decl : EnumDecl) : decl.unplaced.rawKind? = decl.rawKind? := by
  have hnamed : (fun attr : Attribute => attr.isNamed "repr") ∘ Attribute.gathered =
      fun attr => attr.isNamed "repr" := by
    funext attr
    exact Attribute.isNamed_gathered attr "repr"
  simp only [rawKind?, rawBase?, unplaced, List.find?_map, hnamed]
  cases hrepr : decl.attrs.find? fun attr => attr.isNamed "repr" with
  | none => rfl
  | some repr =>
    have hname := List.find?_some hrepr
    have htraits := @Attribute.traits?_eq_none repr "repr" hname (by decide)
    rw [Option.map_some, Attribute.gathered_of_traits?_eq_none htraits]

lemma conformances_unplaced (decl : EnumDecl) :
    decl.unplaced.conformances = decl.conformances := by
  simp [conformances, unplaced, List.flatMap_map]

lemma declaresDecoding_unplaced (decl : EnumDecl) :
    decl.unplaced.declaresDecoding = decl.declaresDecoding := by
  rw [declaresDecoding, conformances_unplaced, declaresDecoding]

lemma sameShape_unplaced (decl : EnumDecl) : decl.SameShape decl.unplaced where
  name := rfl
  kind := rawKind?_unplaced decl
  variants := by
    rw [unplaced, List.map_map]
    rfl

lemma unplaced_extendedBy (decl : EnumDecl) (added : Option Variant) :
    (decl.extendedBy added).unplaced =
      decl.unplaced.extendedBy (added.map Variant.unplaced) := by
  cases added with
  | none => rfl
  | some v => simp [extendedBy, push, unplaced]

lemma unplaced_dropRawValues (decl : EnumDecl) :
    decl.dropRawValues.unplaced = decl.unplaced.dropRawValues := by
  simp [dropRawValues, unplaced, List.filter_map, Function.comp_def, Variant.unplaced]

lemma keepsHelpers_unplaced (decl : EnumDecl) :
    decl.unplaced.keepsHelpers = decl.keepsHelpers := by
  have hderives :
      Attribute.derivesSerialize ∘ Attribute.gathered = Attribute.derivesSerialize := by
    funext attr
    simp [Attribute.derivesSerialize]
  rw [keepsHelpers, unplaced, List.any_map, hderives, keepsHelpers]

/-- Stripping puts lists of traits together, wherever they are from. -/
lemma unplaced_stripDecoding (decl : EnumDecl) :
    decl.unplaced.stripDecoding.unplaced = decl.stripDecoding.unplaced := by
  have hattrs : ((decl.attrs.map Attribute.gathered).filterMap
        (Attribute.stripped? decl.keepsHelpers)).map Attribute.gathered =
      (decl.attrs.filterMap (Attribute.stripped? decl.keepsHelpers)).map Attribute.gathered := by
    rw [List.filterMap_map, List.map_filterMap, List.map_filterMap]
    refine List.filterMap_congr fun attr _ => ?_
    exact Attribute.stripped?_gathered decl.keepsHelpers attr
  have hvariants : ∀ v : Variant,
      (v.unplaced.withHelpers decl.keepsHelpers).unplaced =
        (v.withHelpers decl.keepsHelpers).unplaced := by
    intro v
    rw [Variant.unplaced_withHelpers, Variant.unplaced_unplaced, Variant.unplaced_withHelpers]
  rw [stripDecoding_eq, keepsHelpers_unplaced, stripDecoding_eq]
  simp only [unplaced, hattrs, List.map_map, Function.comp_def, hvariants]

lemma unplaced_applied (decl : EnumDecl) (config : Configuration) :
    (decl.unplaced.applied (decl.unplaced.generate config)).unplaced =
      (decl.applied (decl.generate config)).unplaced := by
  have hadded : (decl.missingFallback? config).map Variant.unplaced =
      decl.missingFallback? config := by
    unfold missingFallback?
    split_ifs <;> rfl
  have hextended : decl.unplaced.extendedBy (decl.missingFallback? config) =
      (decl.extendedBy (decl.missingFallback? config)).unplaced := by
    rw [unplaced_extendedBy, hadded]
  rw [applied_generate, applied_generate, declaresDecoding_unplaced,
    decl.sameShape_unplaced.missingFallback?, hextended]
  dsimp only
  split_ifs
  · rw [← unplaced_dropRawValues, unplaced_stripDecoding]
  · rw [unplaced_stripDecoding]
  · rw [← unplaced_dropRawValues, unplaced_unplaced]
  · rw [unplaced_unplaced]

end EnumDecl

/-! ### Items -/

namespace Item

/-- The item as it is read from its printed form, but without places. -/
def unplaced : Item → Item
  | .enum decl => .enum decl.unplaced
  | .other code _ => .other code Span.nowhere

/-- The items differ only in their places and in which lists of traits were put together. -/
def Alike (item other : Item) : Prop := item.unplaced = other.unplaced

lemma tokens_unplaced (item : Item) : item.unplaced.tokens = item.tokens := by
  cases item with
  | enum decl => exact decl.tokens_unplaced
  | other code span => rfl

lemma expanded_of_expands {decl : EnumDecl} {args : Arguments} {config : Configuration}
    (h : decl.Expands args config) :
    (Item.enum decl).expanded args = .enum (decl.applied (decl.generate config)) := by
  simp only [expanded, h.expand_eq]
  rfl

lemma expanded_of_not_isSuccess {item : Item} {args : Arguments}
    (h : (item.expand args).isSuccess = false) : item.expanded args = item.kept := by
  simp only [expanded, h]

lemma isSuccess_unplaced (decl : EnumDecl) (args : Arguments) :
    ((Item.enum decl.unplaced).expand args).isSuccess =
      ((Item.enum decl).expand args).isSuccess := by
  rw [Bool.eq_iff_iff, expand_isSuccess_iff, expand_isSuccess_iff]
  constructor
  · rintro ⟨_, config, hitem, h⟩
    cases hitem
    exact ⟨decl, config, rfl, decl.sameShape_unplaced.symm.expands h⟩
  · rintro ⟨_, config, hitem, h⟩
    cases hitem
    exact ⟨decl.unplaced, config, rfl, decl.sameShape_unplaced.expands h⟩

lemma unplaced_kept (item : Item) : item.unplaced.kept.unplaced = item.kept.unplaced := by
  cases item with
  | other code span => rfl
  | enum decl =>
    simp only [unplaced, kept, EnumDecl.rawKind?_unplaced]
    split_ifs
    · simp only [EnumDecl.unplaced_dropRawValues, EnumDecl.unplaced_unplaced]
    · simp only [EnumDecl.unplaced_unplaced]

lemma unplaced_expanded (item : Item) (args : Arguments) :
    (item.unplaced.expanded args).unplaced = (item.expanded args).unplaced := by
  cases item with
  | other code span => rfl
  | enum decl =>
    cases hsuccess : ((Item.enum decl).expand args).isSuccess with
    | true =>
      obtain ⟨_, config, hitem, h⟩ := expand_isSuccess_iff.mp hsuccess
      cases hitem
      rw [unplaced, expanded_of_expands h,
        expanded_of_expands (decl.sameShape_unplaced.expands h)]
      exact congrArg Item.enum (decl.unplaced_applied config)
    | false =>
      have hunplaced := (isSuccess_unplaced decl args).trans hsuccess
      rw [expanded_of_not_isSuccess hsuccess, unplaced, expanded_of_not_isSuccess hunplaced]
      exact unplaced_kept (.enum decl)

namespace Alike

variable {item other : Item}

lemma refl (item : Item) : item.Alike item := rfl

/-- Items that are alike have the same code. -/
lemma tokens_eq (h : item.Alike other) : item.tokens = other.tokens := by
  rw [← item.tokens_unplaced, ← other.tokens_unplaced, h]

/-- An expansion takes items that are alike to items that are alike. -/
lemma expanded (h : item.Alike other) (args : Arguments) :
    (item.expanded args).Alike (other.expanded args) := by
  rw [Alike, ← item.unplaced_expanded, ← other.unplaced_expanded, h]

/-- What is like an enum is one, and the two expand alike. -/
lemma exists_enum {decl : EnumDecl} (h : item.Alike (.enum decl)) :
    ∃ again, item = .enum again ∧ again.unplaced = decl.unplaced := by
  cases item with
  | enum again => exact ⟨again, rfl, Item.enum.inj h⟩
  | other code span => cases h

end Alike

end Item

namespace EnumDecl

variable {decl again : EnumDecl}

lemma sameShape_of_unplaced (h : again.unplaced = decl.unplaced) : decl.SameShape again where
  name := by
    have hname := congrArg EnumDecl.name h
    exact hname
  kind := by rw [← rawKind?_unplaced, h, rawKind?_unplaced]
  variants := by
    rw [← again.sameShape_unplaced.variants, h, decl.sameShape_unplaced.variants]

lemma conformances_of_unplaced (h : again.unplaced = decl.unplaced) :
    again.conformances = decl.conformances := by
  rw [← conformances_unplaced, h, conformances_unplaced]

end EnumDecl

end FallbackEnum
