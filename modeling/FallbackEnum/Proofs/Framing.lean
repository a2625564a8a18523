import FallbackEnum.Proofs.ItemEquality
import FallbackEnum.Proofs.LookupCode
import FallbackEnum.Proofs.Reexpansion

/-!
# What rendering leaves alone

An item is edited in up to three ways before it is rendered: its fallback is added, its texts are
dropped, its decoding derives are stripped. Each edit is confined to some attributes, by their
names, and to the discriminants. What one edit leaves alone and the next one too is left alone by
both, so the rendered item differs from the declared one only in what the edits are there for.
After a failed expansion, dropping the texts is the only edit there is.
-/

namespace FallbackEnum

/-! ### Attributes by name -/

namespace Attribute

/-- Does the attribute have none of these names? -/
def isNoneOf (names : List String) (attr : Attribute) : Bool := names.all (!attr.isNamed ·)

@[simp] lemma filter_isNoneOf_nil (attrs : List Attribute) :
    attrs.filter (isNoneOf []) = attrs :=
  List.filter_eq_self.mpr fun _ _ => rfl

lemma isNoneOf_singleton (name : String) :
    isNoneOf [name] = fun attr => !attr.isNamed name := by
  funext attr
  simp [isNoneOf]

lemma isNamed_of_isNoneOf {names : List String} {attr : Attribute} {name : String}
    (h : attr.isNoneOf names = true) (hname : name ∈ names) : attr.isNamed name = false := by
  have hnone := List.all_eq_true.mp h name hname
  rwa [Bool.not_eq_true'] at hnone

lemma isNoneOf_mono {names more : List String} {attr : Attribute} (hsubset : names ⊆ more)
    (h : attr.isNoneOf more = true) : attr.isNoneOf names = true := by
  rw [isNoneOf, List.all_eq_true] at h ⊢
  intro name hname
  exact h name (hsubset hname)

lemma isNoneOf_eq_of_path_eq {attr other : Attribute} (h : other.path = attr.path)
    (names : List String) : other.isNoneOf names = attr.isNoneOf names := by
  simp only [isNoneOf, isNamed, h]

lemma filter_filter_isNoneOf {names more : List String} (hsubset : names ⊆ more)
    (attrs : List Attribute) :
    (attrs.filter (isNoneOf names)).filter (isNoneOf more) = attrs.filter (isNoneOf more) := by
  rw [List.filter_filter]
  refine List.filter_congr fun attr _ => ?_
  rw [Bool.and_eq_left_iff_imp]
  exact isNoneOf_mono hsubset

lemma filter_isNoneOf_mono {names more : List String} (hsubset : names ⊆ more)
    {attrs others : List Attribute}
    (h : others.filter (isNoneOf names) = attrs.filter (isNoneOf names)) :
    others.filter (isNoneOf more) = attrs.filter (isNoneOf more) := by
  rw [← filter_filter_isNoneOf hsubset others, h, filter_filter_isNoneOf hsubset]

/-- Stripping leaves an attribute alone that neither derives nor helps. -/
lemma stripped?_of_isNoneOf {names : List String} {attr : Attribute} (helpers : Bool)
    (hderive : "derive" ∈ names) (hserde : "serde" ∈ names) (h : attr.isNoneOf names = true) :
    attr.stripped? helpers = some attr := by
  have htraits : attr.traits? = none := traits?_of_not_derive (isNamed_of_isNoneOf h hderive)
  have hhelper : attr.isHelper = false := isNamed_of_isNoneOf h hserde
  simp [stripped?, withoutDecoding?_of_traits?_eq_none htraits, hhelper]

/-- What stripping makes of an attribute has its name, so the attributes of other names stay. -/
lemma stripped?_filter_isNoneOf {names : List String} (helpers : Bool)
    (hderive : "derive" ∈ names) (hserde : "serde" ∈ names) (attr : Attribute) :
    (attr.stripped? helpers).filter (isNoneOf names) = Option.guard (isNoneOf names) attr := by
  cases hother : attr.isNoneOf names with
  | true =>
    rw [stripped?_of_isNoneOf helpers hderive hserde hother]
    simp [Option.guard, hother]
  | false =>
    cases hkept : attr.stripped? helpers with
    | none => simp [Option.guard, hother]
    | some kept =>
      have hpath := isNoneOf_eq_of_path_eq (stripped?_path hkept) names
      simp [Option.guard, hother, hpath]

end Attribute

/-! ### Declarations that agree -/

/-- The variant without its discriminant and its place, and without attributes of these names. -/
def Variant.outside (names : List String) (v : Variant) : Variant :=
  { attrs := v.attrs.filter (Attribute.isNoneOf names), ident := v.ident, fields := v.fields }

namespace EnumDecl

/-- The declarations agree, apart from attributes with certain names of the enum and of its
variants and from discriminants. -/
structure AgreeOutside (names variantNames : List String) (decl other : EnumDecl) : Prop where
  name : other.name = decl.name
  visibility : other.visibility = decl.visibility
  generics : other.generics = decl.generics
  whereClause : other.whereClause = decl.whereClause
  trailingComma : other.trailingComma = decl.trailingComma
  attrs : other.attrs.filter (Attribute.isNoneOf names) =
    decl.attrs.filter (Attribute.isNoneOf names)
  variants : other.variants.map (Variant.outside variantNames) =
    decl.variants.map (Variant.outside variantNames)

namespace AgreeOutside

variable {names more variantNames moreVariantNames : List String} {decl other third : EnumDecl}

lemma refl (decl : EnumDecl) : AgreeOutside names variantNames decl decl :=
  ⟨rfl, rfl, rfl, rfl, rfl, rfl, rfl⟩

lemma trans (h₁ : AgreeOutside names variantNames decl other)
    (h₂ : AgreeOutside names variantNames other third) :
    AgreeOutside names variantNames decl third where
  name := h₂.name.trans h₁.name
  visibility := h₂.visibility.trans h₁.visibility
  generics := h₂.generics.trans h₁.generics
  whereClause := h₂.whereClause.trans h₁.whereClause
  trailingComma := h₂.trailingComma.trans h₁.trailingComma
  attrs := h₂.attrs.trans h₁.attrs
  variants := h₂.variants.trans h₁.variants

lemma mono (h : AgreeOutside names variantNames decl other) (hnames : names ⊆ more)
    (hvariantNames : variantNames ⊆ moreVariantNames) :
    AgreeOutside more moreVariantNames decl other :=
  { h with
    attrs := Attribute.filter_isNoneOf_mono hnames h.attrs
    variants := by
      have houtside : ∀ v : Variant, (v.outside variantNames).outside moreVariantNames =
          v.outside moreVariantNames := by
        intro v
        simp only [Variant.outside, Attribute.filter_filter_isNoneOf hvariantNames]
      have hmap := congrArg (List.map (Variant.outside moreVariantNames)) h.variants
      simpa only [List.map_map, Function.comp_def, houtside] using hmap }

/-- What does not depend on the attributes and discriminants of a variant is the same. -/
lemma map_variants (h : AgreeOutside names variantNames decl other) {β : Type} (f : Variant → β)
    (hf : ∀ v, f (v.outside variantNames) = f v) :
    other.variants.map f = decl.variants.map f := by
  have hmap := congrArg (List.map f) h.variants
  simpa only [List.map_map, Function.comp_def, hf] using hmap

end AgreeOutside

/-- Dropping the texts leaves alone all but the attributes `repr`. -/
lemma agreeOutside_dropRawValues (decl : EnumDecl) :
    AgreeOutside ["repr"] [] decl decl.dropRawValues where
  name := rfl
  visibility := rfl
  generics := rfl
  whereClause := rfl
  trailingComma := rfl
  attrs := by
    simp only [dropRawValues, List.filter_filter, Attribute.isNoneOf_singleton, Bool.and_self]
  variants := by
    rw [dropRawValues, List.map_map]
    rfl

/-- Stripping leaves alone all but the attributes `derive` and `serde`. -/
lemma agreeOutside_stripDecoding (decl : EnumDecl) :
    AgreeOutside ["derive", "serde"] ["serde"] decl decl.stripDecoding := by
  have hvariant : ∀ v : Variant,
      (v.withHelpers decl.keepsHelpers).outside ["serde"] = v.outside ["serde"] := by
    intro v
    simp only [Variant.withHelpers, Variant.outside, List.filter_filter,
      Attribute.isNoneOf_singleton, Attribute.isHelper]
    refine congrArg (Variant.mk · v.ident v.fields none Span.nowhere) ?_
    refine List.filter_congr fun attr _ => ?_
    cases attr.isNamed "serde" <;> simp
  rw [stripDecoding_eq]
  refine ⟨rfl, rfl, rfl, rfl, rfl, ?_, ?_⟩
  · rw [List.filter_filterMap, ← List.filterMap_eq_filter]
    refine List.filterMap_congr fun attr _ => ?_
    exact Attribute.stripped?_filter_isNoneOf _ (by simp) (by simp) attr
  · rw [List.map_map]
    exact List.map_congr_left fun v _ => hvariant v

/-! ### Texts that are gone -/

/-- Nothing is left of the texts of an enum: no `repr` and no discriminant. -/
structure Untexted (decl : EnumDecl) : Prop where
  attrs : ∀ attr ∈ decl.attrs, attr.isNamed "repr" = false
  variants : ∀ v ∈ decl.variants, v.discriminant = none

lemma untexted_dropRawValues (decl : EnumDecl) : decl.dropRawValues.Untexted where
  attrs := by
    intro attr hattr
    simpa using (List.mem_filter.mp hattr).2
  variants := by
    intro v hv
    obtain ⟨w, -, rfl⟩ := List.mem_map.mp hv
    rfl

/-- Stripping brings no text back. -/
lemma Untexted.stripDecoding {decl : EnumDecl} (h : decl.Untexted) :
    decl.stripDecoding.Untexted := by
  rw [stripDecoding_eq]
  constructor
  · intro attr hattr
    obtain ⟨declared, hdeclared, hstripped⟩ := List.mem_filterMap.mp hattr
    rw [Attribute.isNamed, Attribute.stripped?_path hstripped]
    exact h.attrs declared hdeclared
  · intro v hv
    obtain ⟨w, hw, rfl⟩ := List.mem_map.mp hv
    exact h.variants w hw

/-- Without a `repr`, there is no attribute to leave out. -/
lemma Untexted.filter_attrs {decl : EnumDecl} (h : decl.Untexted) :
    decl.attrs.filter (Attribute.isNoneOf ["repr"]) = decl.attrs := by
  rw [List.filter_eq_self]
  intro attr hattr
  simp [Attribute.isNoneOf, h.attrs attr hattr]

end EnumDecl

/-! ### Failed expansions -/

/-- The message of an error in code: the text in `::core::compile_error!` with nothing around
it. -/
def compileErrorMessage? (code : List Token) : Option String :=
  match LookupCode.behindPath? ["core", "compile_error"] code with
  | some [.punct _ '!' _, .group _ .brace [.literal _ spelling]] =>
    match Literal.value spelling with
    | .text message => some message
    | _ => none
  | _ => none

lemma Diagnostic.compileErrorMessage?_compileError (d : Diagnostic) :
    compileErrorMessage? d.compileError = some d.fault.message := by
  have hread : compileErrorMessage? d.compileError =
      match Literal.value (Text.quoted d.message) with
      | .text message => some message
      | _ => none := rfl
  rw [hread, Literal.value_quoted]
  rfl

/-- A failed expansion keeps the item and reports the first fault with its message, once. Of a
text enum the attributes `repr` and all discriminants go and nothing else; any other item stays
as it is. -/
theorem failed_render_keeps_item {item : Item} {args : Arguments}
    (hfailed : (item.expand args).isSuccess = false) :
    ∃ (kept : Item) (d : Diagnostic) (error : List Token),
      Outcome args item (.error d) ∧
      item.render (item.expand args) = [.item kept, .error d] ∧
      renderTokens (item.render (item.expand args)) = kept.tokens ++ error ∧
      compileErrorMessage? error = some d.fault.message ∧
      (∀ decl, item = .enum decl → decl.rawKind? = some .text →
        ∃ after, kept = .enum after ∧ EnumDecl.AgreeOutside ["repr"] [] decl after ∧
          after.Untexted) ∧
      ((∀ decl, item = .enum decl → decl.rawKind? ≠ some .text) → kept = item) := by
  obtain ⟨outcome, houtcome⟩ := Outcome.exists_outcome item args
  cases outcome with
  | ok config =>
    obtain ⟨decl, rfl, -, -, hexpand⟩ := houtcome.expand?_eq_ok
    rw [Item.expand, hexpand] at hfailed
    cases hfailed
  | error d =>
    have hrender : item.render (item.expand args) = [.item item.kept, .error d] := by
      rw [Item.expand, houtcome.expand?_eq_error]
      cases item <;> rfl
    refine ⟨item.kept, d, d.compileError, houtcome, hrender, ?_,
      d.compileErrorMessage?_compileError, ?_, ?_⟩
    · rw [hrender]
      simp [renderTokens, Declaration.tokens]
    · rintro decl rfl hkind
      refine ⟨decl.dropRawValues, ?_, decl.agreeOutside_dropRawValues,
        decl.untexted_dropRawValues⟩
      rw [Item.kept, if_pos hkind]
    · intro hother
      cases item with
      | other code span => rfl
      | enum decl => exact Item.kept_of_rawKind? (hother decl rfl)

/-- A text enum that cannot be expanded: a variant has fields. It has a second `repr`, derives,
and helper attributes. -/
def invalidAnnotated : EnumDecl :=
  { annotated with
    attrs := annotated.attrs ++ [Catalog.reprAttribute .integer]
    variants := [
      { Catalog.credit with attrs := [annotated.helper] },
      { Catalog.debit with fields := .tuple [.word "u8"] }] }

/-- Both attributes `repr` and both texts go; the other three attributes, the helper of the first
variant and the field of the second stay. -/
theorem invalidAnnotated_keeps_item :
    ((Item.enum invalidAnnotated).expand {}).isSuccess = false ∧
      ∃ (after : EnumDecl) (d : Diagnostic),
        (Item.enum invalidAnnotated).render ((Item.enum invalidAnnotated).expand {}) =
          [.item (.enum after), .error d] ∧
        after.attrs = annotated.attrs.take 3 ∧
        after.variants.map (fun v => (v.name, v.attrs.length, v.fields.isUnit)) =
          [("Credit", 1, true), ("Debit", 0, false)] ∧
        after.Untexted := by
  have hfailed : ((Item.enum invalidAnnotated).expand {}).isSuccess = false := by decide +kernel
  have hkind : invalidAnnotated.rawKind? = some .text := by decide +kernel
  obtain ⟨_, d, _, -, hrender, -, -, htext, -⟩ := failed_render_keeps_item hfailed
  obtain ⟨after, rfl, hagree, huntexted⟩ := htext invalidAnnotated rfl hkind
  refine ⟨hfailed, after, d, hrender, ?_, ?_, huntexted⟩
  · rw [← huntexted.filter_attrs, hagree.attrs]
    rfl
  · rw [hagree.map_variants _ fun v => by simp [Variant.outside, Variant.name]]
    rfl

/-! ### Successful expansions -/

namespace EnumDecl

/-- The names of the attributes of an enum that its rendering is there to change: those of
derived decoding, and those that ask for texts. -/
def changedNames (kind : RawKind) (derives : Bool) : List String :=
  (if derives then ["derive", "serde"] else []) ++ if kind = .text then ["repr"] else []

/-- The names of the attributes of a variant that are changed. -/
def changedVariantNames (derives : Bool) : List String := if derives then ["serde"] else []

lemma extendedBy_eq (decl : EnumDecl) (added : Option Variant) :
    decl.extendedBy added =
      { decl with
        variants := decl.variants ++ added.toList
        trailingComma := added.isNone && decl.trailingComma } := by
  cases added <;> simp [extendedBy, push]

/-- A rendered enum agrees with the extended one in all that its rendering is not there to
change. -/
lemma agreeOutside_applied (decl : EnumDecl) (config : Configuration) :
    AgreeOutside (changedNames config.kind decl.declaresDecoding)
      (changedVariantNames decl.declaresDecoding)
      (decl.extendedBy (decl.missingFallback? config))
      (decl.applied (decl.generate config)) := by
  have huntexted : AgreeOutside (changedNames config.kind decl.declaresDecoding)
      (changedVariantNames decl.declaresDecoding)
      (decl.extendedBy (decl.missingFallback? config))
      (if config.kind = .text then (decl.extendedBy (decl.missingFallback? config)).dropRawValues
        else decl.extendedBy (decl.missingFallback? config)) := by
    split_ifs with hkind
    · refine (agreeOutside_dropRawValues _).mono ?_ (List.nil_subset _)
      simp [changedNames, hkind]
    · exact .refl _
  rw [applied_generate]
  dsimp only
  cases hderives : decl.declaresDecoding with
  | false =>
    rw [hderives] at huntexted
    rwa [if_neg Bool.false_ne_true]
  | true =>
    rw [hderives] at huntexted
    rw [if_pos rfl]
    refine huntexted.trans ((agreeOutside_stripDecoding _).mono ?_ (List.Subset.refl _))
    exact List.subset_append_left _ _

/-- Nothing is left of the texts of a rendered text enum. -/
lemma untexted_applied (decl : EnumDecl) {config : Configuration} (hkind : config.kind = .text) :
    (decl.applied (decl.generate config)).Untexted := by
  rw [applied_generate, hkind]
  dsimp only
  rw [if_pos rfl]
  split_ifs
  · exact (untexted_dropRawValues _).stripDecoding
  · exact untexted_dropRawValues _

/-- Rendering an integer enum leaves its discriminants alone. -/
lemma discriminants_applied (decl : EnumDecl) {config : Configuration}
    (hkind : config.kind = .integer) :
    (decl.applied (decl.generate config)).variants.map Variant.discriminant =
      (decl.completed config).map Variant.discriminant := by
  rw [completed, ← extendedBy_variants]
  exact Variant.map_eq_of_plain _ (fun _ => rfl) (sameShape_applied_integer decl hkind).variants

/-- Rendering an integer enum leaves its attributes `repr` alone. -/
lemma reprs_applied (decl : EnumDecl) {config : Configuration} (hkind : config.kind = .integer) :
    (decl.applied (decl.generate config)).attrs.filter (·.isNamed "repr") =
      decl.attrs.filter (·.isNamed "repr") := by
  -- they are among the attributes that are not changed
  have hothers : ∀ attrs : List Attribute,
      (attrs.filter (Attribute.isNoneOf (changedNames config.kind decl.declaresDecoding))).filter
        (·.isNamed "repr") = attrs.filter (·.isNamed "repr") := by
    intro attrs
    rw [List.filter_filter]
    refine List.filter_congr fun attr _ => ?_
    rw [Bool.and_eq_left_iff_imp]
    intro hname
    cases decl.declaresDecoding <;>
      simp [changedNames, hkind, Attribute.isNoneOf, Attribute.isNamed_eq_false hname]
  have hattrs :=
    congrArg (List.filter (·.isNamed "repr")) (decl.agreeOutside_applied config).attrs
  rw [hothers, hothers, extendedBy_eq] at hattrs
  exact hattrs

end EnumDecl

/-- A rendered enum differs from the declared one only in what its rendering is there to change.
Its head is the same, and its variants are the declared ones, by name and fields, followed by the
added fallback. A text enum has no `repr` and no discriminant left; in an integer enum these
stay, and an added fallback has the raw value of the configuration. All other attributes stay in
order, apart from `derive` and `serde` on an enum that derives its decoding and `serde` on its
variants. -/
theorem rendered_enum_frame {item : Item} {args : Arguments}
    (hsuccess : (item.expand args).isSuccess = true) :
    ∃ (decl rendered : EnumDecl) (config : Configuration) (added : List Variant),
      item = .enum decl ∧
      (item.expand args).kind = some config.kind ∧
      Configuration.resolve config.kind args decl.span = .ok config ∧
      (item.expand args).fallbackVariant?.toList = added ∧
      (item.render (item.expand args)).head? = some (.item (.enum rendered)) ∧
      rendered.name = decl.name ∧ rendered.visibility = decl.visibility ∧
      rendered.generics = decl.generics ∧ rendered.whereClause = decl.whereClause ∧
      rendered.variants.map Variant.name = (decl.variants ++ added).map Variant.name ∧
      rendered.variants.map Variant.fields = (decl.variants ++ added).map Variant.fields ∧
      (config.kind = .text → rendered.Untexted) ∧
      (config.kind = .integer →
        rendered.attrs.filter (·.isNamed "repr") = decl.attrs.filter (·.isNamed "repr") ∧
        rendered.variants.map Variant.discriminant =
          (decl.variants ++ added).map Variant.discriminant ∧
        ∀ v ∈ added, ∃ n, config.fallback = .integer n ∧
          v.discriminant = some (RawValue.integer n).tokens) ∧
      (decl.declaresDecoding = false →
        rendered.attrs =
          (if config.kind = .text then decl.attrs.filter (!·.isNamed "repr") else decl.attrs) ∧
        rendered.variants.map Variant.attrs = (decl.variants ++ added).map Variant.attrs) ∧
      (decl.declaresDecoding = true →
        rendered.attrs.filter (Attribute.isNoneOf (EnumDecl.changedNames config.kind true)) =
          decl.attrs.filter (Attribute.isNoneOf (EnumDecl.changedNames config.kind true)) ∧
        rendered.variants.map (fun v => v.attrs.filter (!·.isNamed "serde")) =
          (decl.variants ++ added).map (fun v => v.attrs.filter (!·.isNamed "serde"))) := by
  obtain ⟨decl, config, rfl, h⟩ := Item.expand_isSuccess_iff.mp hsuccess
  have hagree := decl.agreeOutside_applied config
  rw [EnumDecl.extendedBy_eq] at hagree
  refine ⟨decl, decl.applied (decl.generate config), config,
    (decl.missingFallback? config).toList, rfl, ?_, h.resolved, ?_, ?_, hagree.name,
    hagree.visibility, hagree.generics, hagree.whereClause, hagree.map_variants _ fun _ => rfl,
    hagree.map_variants _ fun _ => rfl, decl.untexted_applied, ?_, ?_, ?_⟩
  · rw [h.expand_eq, EnumDecl.generate_kind]
  · rw [h.expand_eq, EnumDecl.generate_fallbackVariant?]
  · rw [h.render_eq]
    rfl
  · intro hkind
    refine ⟨decl.reprs_applied hkind, decl.discriminants_applied hkind, ?_⟩
    intro v hv
    obtain ⟨n, hfallback⟩ := RawValue.exists_integer (h.fallback_kind.trans hkind)
    obtain ⟨-, rfl⟩ := EnumDecl.missingFallback?_eq_some_iff.mp (Option.mem_toList.mp hv)
    exact ⟨n, hfallback, by rw [Configuration.fallbackVariant, hfallback]⟩
  · intro hderives
    rw [hderives] at hagree
    refine ⟨?_, hagree.map_variants _ fun v => ?_⟩
    · have hattrs := hagree.attrs
      split_ifs with hkind
      · have hnames : EnumDecl.changedNames config.kind false = ["repr"] := by
          rw [hkind]
          rfl
        rwa [hnames, (decl.untexted_applied hkind).filter_attrs,
          Attribute.isNoneOf_singleton] at hattrs
      · have hnames : EnumDecl.changedNames config.kind false = [] := by
          simp [EnumDecl.changedNames, hkind]
        simpa only [hnames, Attribute.filter_isNoneOf_nil] using hattrs
    · simp [Variant.outside, EnumDecl.changedVariantNames]
  · intro hderives
    rw [hderives] at hagree
    refine ⟨hagree.attrs, hagree.map_variants _ fun v => ?_⟩
    simp [Variant.outside, EnumDecl.changedVariantNames, Attribute.isNoneOf_singleton]

/-- A generic integer enum with documentation and a second `repr`, which derives its decoding. -/
def documented : EnumDecl :=
  { annotated with
    attrs := [fallbackDoc, Catalog.reprAttribute .integer] ++ annotated.attrs
    visibility := .restricted [.word "crate"]
    generics := Token.operator "<" ++ [.word "T"] ++ Token.operator ">"
    variants := [
      { Catalog.credit with
        attrs := [annotated.helper, fallbackDoc]
        discriminant := some (RawValue.integer 7).tokens }] }

/-- The documentation, both attributes `repr` and the number stay; the fallback comes with its
number. -/
theorem documented_frame :
    ((Item.enum documented).expand {}).isSuccess = true ∧
      ∃ rendered : EnumDecl,
        ((Item.enum documented).render ((Item.enum documented).expand {})).head? =
          some (.item (.enum rendered)) ∧
        rendered.visibility = .restricted [.word "crate"] ∧
        rendered.generics = documented.generics ∧
        rendered.variants.map Variant.name = ["Credit", "Unknown"] ∧
        rendered.variants.map Variant.discriminant =
          [some (RawValue.integer 7).tokens, some (RawValue.integer (-1)).tokens] ∧
        rendered.attrs.filter (Attribute.isNoneOf ["derive", "serde"]) =
          [fallbackDoc, Catalog.reprAttribute .integer, Catalog.reprAttribute .text] ∧
        rendered.variants.map (fun v => v.attrs.filter (!·.isNamed "serde")) =
          [[fallbackDoc], [fallbackDoc]] := by
  have hsuccess : ((Item.enum documented).expand {}).isSuccess = true := by decide +kernel
  have hkind : ((Item.enum documented).expand {}).kind = some .integer := by decide +kernel
  have hadded : ((Item.enum documented).expand {}).fallbackVariant? =
      some Catalog.unknown := by
    decide +kernel
  obtain ⟨_, rendered, config, added, hitem, hconfig, -, rfl, hhead, -, hvisibility, hgenerics,
    -, hnames, -, -, hinteger, -, hderives⟩ := rendered_enum_frame hsuccess
  cases hitem
  have hconfigKind : config.kind = .integer := Option.some.inj (hconfig.symm.trans hkind)
  rw [hadded] at hnames hinteger hderives
  obtain ⟨-, hdiscriminants, -⟩ := hinteger hconfigKind
  obtain ⟨hattrs, hvariantAttrs⟩ := hderives (by decide)
  have hchanged : EnumDecl.changedNames config.kind true = ["derive", "serde"] := by
    rw [hconfigKind]
    rfl
  rw [hchanged] at hattrs
  refine ⟨hsuccess, rendered, hhead, hvisibility, hgenerics, hnames.trans ?_,
    hdiscriminants.trans ?_, hattrs.trans ?_, hvariantAttrs.trans ?_⟩
  · decide
  · decide +kernel
  · decide +kernel
  · decide +kernel

end FallbackEnum
