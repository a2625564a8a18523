import FallbackEnum.Proofs.Stripping

/-!
# What stripping leaves

Stripping goes through the attributes one by one and leaves at most one in the place of each: a
list of traits loses those that decode, and goes if no other is left; a helper attribute goes
unless a derived trait reads it; any other attribute stays as it is. The relations below say so
without the functions that do it, and stripping is the one edit that satisfies them. Stripping
again leaves alone what is left.
-/

namespace FallbackEnum

/-! ### One attribute -/

/-- The trait is one of the two that decode. -/
def TraitPath.Decodes (path : TraitPath) : Prop :=
  path.last = "Deserialize" ∨ path.last = "Deserialize_repr"

instance (path : TraitPath) : Decidable path.Decodes :=
  inferInstanceAs (Decidable (_ ∨ _))

lemma keptTraits_eq_filter (paths : List TraitPath) :
    keptTraits paths = paths.filter fun path => ¬ path.Decodes := by
  refine List.filter_congr fun path _ => ?_
  simp [isDecodingTrait, decodingTraits, TraitPath.Decodes]

namespace Attribute

/-- A helper attribute goes unless the helpers stay, and any other attribute stays. -/
inductive LosesHelper (helpers : Prop) (attr : Attribute) : Option Attribute → Prop where
  | helper (h : attr.isNamed "serde" = true) (hgoes : ¬ helpers) : LosesHelper helpers attr none
  | other (h : attr.isNamed "serde" = true → helpers) : LosesHelper helpers attr (some attr)

/-- What becomes of an attribute of an enum. A list of traits loses those that decode, and goes
if there is no other. -/
inductive LosesDecoding (helpers : Prop) (attr : Attribute) : Option Attribute → Prop where
  | emptied {paths : List TraitPath} (h : attr.traits? = some paths)
      (hall : ∀ path ∈ paths, path.Decodes) : LosesDecoding helpers attr none
  | rewritten {paths others : List TraitPath} (h : attr.traits? = some paths)
      (hothers : others = paths.filter fun path => ¬ path.Decodes) (hsome : others ≠ []) :
      LosesDecoding helpers attr (some (listing others))
  | other {result : Option Attribute} (htraits : attr.traits? = none)
      (h : LosesHelper helpers attr result) : LosesDecoding helpers attr result

variable {helpers : Bool} {attr : Attribute} {result : Option Attribute}

lemma losesHelper_iff :
    LosesHelper (helpers = true) attr result ↔
      (if helpers || !attr.isHelper then some attr else none) = result := by
  constructor
  · rintro (⟨h, hgoes⟩ | h)
    · simp [isHelper, h, hgoes]
    · rw [if_pos]
      cases hname : attr.isNamed "serde" with
      | false => simp [isHelper, hname]
      | true => simp [h hname]
  · rintro rfl
    split_ifs with hstays
    · refine .other fun h => ?_
      simpa [isHelper, h] using hstays
    · rw [Bool.or_eq_true, not_or, Bool.not_eq_true', Bool.not_eq_false] at hstays
      exact .helper hstays.2 hstays.1

lemma stripped?_of_traits? {paths : List TraitPath} (h : attr.traits? = some paths) :
    attr.stripped? helpers =
      if keptTraits paths = [] then none else some (listing (keptTraits paths)) := by
  rw [stripped?, withoutDecoding?_of_traits? h]
  split_ifs with hkept
  · rfl
  · have hhelper : (listing (keptTraits paths)).isHelper = false := rfl
    simp [hhelper]

lemma stripped?_of_traits?_eq_none (h : attr.traits? = none) :
    attr.stripped? helpers = if helpers || !attr.isHelper then some attr else none := by
  rw [stripped?, withoutDecoding?_of_traits?_eq_none h, Option.filter_some]

lemma losesDecoding_iff :
    LosesDecoding (helpers = true) attr result ↔ attr.stripped? helpers = result := by
  constructor
  · rintro (⟨h, hall⟩ | ⟨h, rfl, hsome⟩ | ⟨htraits, h⟩)
    · rw [stripped?_of_traits? h, if_pos]
      simpa [keptTraits_eq_filter] using hall
    · rw [← keptTraits_eq_filter] at hsome ⊢
      rw [stripped?_of_traits? h, if_neg hsome]
    · rw [stripped?_of_traits?_eq_none htraits]
      exact losesHelper_iff.mp h
  · intro h
    cases htraits : attr.traits? with
    | none =>
      rw [stripped?_of_traits?_eq_none htraits] at h
      exact .other htraits (losesHelper_iff.mpr h)
    | some paths =>
      rw [stripped?_of_traits? htraits, keptTraits_eq_filter] at h
      split_ifs at h with hkept
      · subst h
        refine .emptied htraits ?_
        simpa using hkept
      · subst h
        exact .rewritten htraits rfl hkept

/-- An attribute that is left is left alone by stripping again. -/
lemma stripped?_idem (helpers : Bool) (attr : Attribute) :
    (attr.stripped? helpers).bind (stripped? helpers) = attr.stripped? helpers := by
  cases htraits : attr.traits? with
  | none =>
    rw [stripped?_of_traits?_eq_none htraits]
    split_ifs with hstays
    · rw [Option.bind_some, stripped?_of_traits?_eq_none htraits, if_pos hstays]
    · rfl
  | some paths =>
    have hkept : keptTraits (keptTraits paths) = keptTraits paths := by
      simp [keptTraits]
    rw [stripped?_of_traits? htraits]
    split_ifs with hnone
    · rfl
    · rw [Option.bind_some, stripped?_of_traits? (traits?_listing _), hkept, if_neg hnone]

/-! ### Lists of attributes -/

/-- Each attribute leaves at most one in its place. -/
inductive Rewrites (Becomes : Attribute → Option Attribute → Prop) :
    List Attribute → List Attribute → Prop where
  | nil : Rewrites Becomes [] []
  | cons {attr : Attribute} {result : Option Attribute} {attrs after : List Attribute}
      (h : Becomes attr result) (hrest : Rewrites Becomes attrs after) :
      Rewrites Becomes (attr :: attrs) (result.toList ++ after)

lemma rewrites_iff_filterMap {Becomes : Attribute → Option Attribute → Prop}
    {f : Attribute → Option Attribute}
    (hf : ∀ attr result, Becomes attr result ↔ f attr = result)
    {attrs after : List Attribute} :
    Rewrites Becomes attrs after ↔ attrs.filterMap f = after := by
  constructor
  · intro h
    induction h with
    | nil => rfl
    | @cons attr result _ _ h _ ih =>
      obtain rfl := (hf _ _).mp h
      cases hattr : f attr <;> simp [hattr, ih]
  · rintro rfl
    induction attrs with
    | nil => exact .nil
    | cons attr attrs ih =>
      have hcons := Rewrites.cons ((hf attr _).mpr rfl) ih
      cases hattr : f attr <;> simpa [hattr] using hcons

lemma rewrites_losesHelper_iff {attrs after : List Attribute} :
    Rewrites (LosesHelper (helpers = true)) attrs after ↔
      attrs.filter (fun attr => helpers || !attr.isHelper) = after := by
  rw [rewrites_iff_filterMap fun attr result => @losesHelper_iff helpers attr result,
    ← List.filterMap_eq_filter]
  rfl

lemma rewrites_losesDecoding_iff {attrs after : List Attribute} :
    Rewrites (LosesDecoding (helpers = true)) attrs after ↔
      attrs.filterMap (stripped? helpers) = after :=
  rewrites_iff_filterMap fun attr result => @losesDecoding_iff helpers attr result

end Attribute

/-! ### Declarations -/

/-- The variant loses its helper attributes unless the helpers stay, and nothing else. -/
structure Variant.LosesHelpers (helpers : Prop) (v after : Variant) : Prop where
  attrs : Attribute.Rewrites (Attribute.LosesHelper helpers) v.attrs after.attrs
  rest : after = { v with attrs := after.attrs }

lemma Variant.losesHelpers_iff {helpers : Bool} {v after : Variant} :
    v.LosesHelpers (helpers = true) after ↔ v.withHelpers helpers = after := by
  constructor
  · rintro ⟨hattrs, hrest⟩
    rw [hrest, ← Attribute.rewrites_losesHelper_iff.mp hattrs, withHelpers]
  · rintro rfl
    exact ⟨Attribute.rewrites_losesHelper_iff.mpr rfl, rfl⟩

lemma Variant.withHelpers_idem (helpers : Bool) (v : Variant) :
    (v.withHelpers helpers).withHelpers helpers = v.withHelpers helpers := by
  simp [withHelpers]

namespace EnumDecl

/-- A trait that reads the helper attributes is derived. -/
def ReadsHelpers (decl : EnumDecl) : Prop :=
  ∃ attr ∈ decl.attrs, ∃ paths, attr.traits? = some paths ∧
    ∃ path ∈ paths, path.last = "Serialize"

/-- The declaration loses the derived traits that decode, and the helper attributes that no
derived trait reads, and nothing else. -/
structure StripsTo (decl after : EnumDecl) : Prop where
  attrs : Attribute.Rewrites (Attribute.LosesDecoding decl.ReadsHelpers) decl.attrs after.attrs
  variants : List.Forall₂ (Variant.LosesHelpers decl.ReadsHelpers) decl.variants after.variants
  rest : after = { decl with attrs := after.attrs, variants := after.variants }

lemma readsHelpers_iff {decl : EnumDecl} : decl.ReadsHelpers ↔ decl.keepsHelpers = true := by
  simp only [ReadsHelpers, keepsHelpers, List.any_eq_true, Attribute.derivesSerialize]
  refine exists_congr fun attr => and_congr_right fun _ => ?_
  cases attr.traits? <;> simp

/-- Stripping is the edit that the relation describes. -/
lemma stripDecoding_eq_iff {decl after : EnumDecl} :
    decl.stripDecoding = after ↔ decl.StripsTo after := by
  have hlose : Variant.LosesHelpers decl.ReadsHelpers =
      fun v after => Variant.withHelpers decl.keepsHelpers v = after := by
    funext v after
    rw [readsHelpers_iff, Variant.losesHelpers_iff]
  have hvariants (variants : List Variant) :
      List.Forall₂ (Variant.LosesHelpers decl.ReadsHelpers) decl.variants variants ↔
        decl.variants.map (Variant.withHelpers decl.keepsHelpers) = variants := by
    rw [hlose, ← List.forall₂_map_left_iff, List.forall₂_eq_eq_eq]
  rw [stripDecoding_eq]
  constructor
  · rintro rfl
    refine ⟨?_, (hvariants _).mpr rfl, rfl⟩
    rw [readsHelpers_iff]
    exact Attribute.rewrites_losesDecoding_iff.mpr rfl
  · rintro ⟨hattrs, hothers, hrest⟩
    rw [readsHelpers_iff] at hattrs
    rw [hrest, Attribute.rewrites_losesDecoding_iff.mp hattrs, (hvariants _).mp hothers]

/-- The helpers of a stripped enum are read by the same derived trait. -/
lemma keepsHelpers_stripDecoding (decl : EnumDecl) :
    decl.stripDecoding.keepsHelpers = decl.keepsHelpers := by
  have hderived (other : EnumDecl) :
      other.keepsHelpers = true ↔ "Serialize" ∈ other.conformances := by
    rw [← readsHelpers_iff]
    simp only [ReadsHelpers, conformances, List.mem_flatMap]
    refine exists_congr fun attr => and_congr_right fun _ => ?_
    cases attr.traits? <;> simp
  have hserialize : isDecodingTrait "Serialize" = false := rfl
  rw [Bool.eq_iff_iff, hderived, hderived, conformances_stripDecoding, List.mem_filter,
    hserialize]
  simp

/-- Stripping twice is stripping once. -/
lemma stripDecoding_idem (decl : EnumDecl) :
    decl.stripDecoding.stripDecoding = decl.stripDecoding := by
  rw [stripDecoding_eq decl.stripDecoding, keepsHelpers_stripDecoding, stripDecoding_eq]
  simp only [List.filterMap_filterMap, List.map_map, Attribute.stripped?_idem, Function.comp_def,
    Variant.withHelpers_idem]

lemma rawBase?_stripDecoding (decl : EnumDecl) :
    decl.stripDecoding.rawBase? = decl.rawBase? := by
  simp only [rawBase?, find?_repr_stripDecoding]

end EnumDecl

/-- An attribute derives a list of traits exactly if it is a `derive` of this list, put together
or read from the arguments. -/
lemma Attribute.traits?_eq_some_iff {attr : Attribute} {paths : List TraitPath} :
    attr.traits? = some paths ↔
      attr.isNamed "derive" = true ∧
        (attr.body = .traits paths ∨
          ∃ delimiter arguments, attr.body = .list delimiter arguments ∧
            Grammar.readAll Grammar.pathList arguments = some paths) := by
  rw [traits?]
  split_ifs with hname
  · cases attr.body <;> simp [hname]
  · simp [hname]

/-- The arguments of a `derive` are kept as they are written. -/
lemma Grammar.attributeMeta_derive {α : Type} (g : Rules α) (m m' : α) (delimiter : Delimiter)
    (inner rest : List (TokenTree α)) :
    attributeMeta g (.ident m "derive" :: .group m' delimiter inner :: rest) =
      some (⟨{ segments := ["derive"] }, .list delimiter (inner.map TokenTree.forget)⟩,
        rest) := rfl

/-- Stripping takes exactly the decoding derives off an enum, with the helper attributes that no
derived trait reads, and leaves everything else as it was and in its order. What is left of a
list of traits is a `derive` of its other paths. The arguments of a `derive` that is read are
kept as they are written, and they are such a list exactly if they read as one. So stripping
again changes nothing, and the raw kind stays. -/
theorem stripping_takes_decoding_derives (decl : EnumDecl) :
    (∀ after, decl.stripDecoding = after ↔ decl.StripsTo after) ∧
    decl.stripDecoding.stripDecoding = decl.stripDecoding ∧
    decl.stripDecoding.rawBase? = decl.rawBase? ∧
    decl.stripDecoding.rawKind? = decl.rawKind? ∧
    (∀ kept : List TraitPath, (Attribute.listing kept).metaTokens =
      .word "derive" :: Token.parens (commaSeparated false (kept.map TraitPath.code))) ∧
    (∀ (g : Grammar.Rules Span) (m m' : Span) (delimiter : Delimiter)
      (inner rest : List (TokenTree Span)),
      Grammar.attributeMeta g (.ident m "derive" :: .group m' delimiter inner :: rest) =
        some (⟨{ segments := ["derive"] }, .list delimiter (inner.map TokenTree.forget)⟩,
          rest)) ∧
    ∀ (attr : Attribute) (paths : List TraitPath), attr.traits? = some paths ↔
      attr.isNamed "derive" = true ∧
        (attr.body = .traits paths ∨
          ∃ delimiter arguments, attr.body = .list delimiter arguments ∧
            Grammar.readAll Grammar.pathList arguments = some paths) :=
  ⟨fun _ => EnumDecl.stripDecoding_eq_iff, decl.stripDecoding_idem, decl.rawBase?_stripDecoding,
    decl.rawKind?_stripDecoding, fun _ => rfl, Grammar.attributeMeta_derive,
    fun _ _ => Attribute.traits?_eq_some_iff⟩

end FallbackEnum
