import FallbackEnum.Expansion
import FallbackEnum.Proofs.QuotedText
import Mathlib.Data.List.Nodup

/-!
# Successful expansions

What stands behind a successful expansion: the declaration names a raw kind, the arguments
complete to a configuration of that kind, and the variants pass the checks. Then everything that
is generated is a function of the declaration and the configuration, and the rendered code has a
fixed shape.
-/

namespace FallbackEnum

/-! ### Configurations -/

lemma RawValue.exists_text {value : RawValue} (h : value.kind = .text) :
    ∃ literal, value = .text literal := by
  cases value with
  | text literal => exact ⟨literal, rfl⟩
  | integer n => cases h

lemma RawValue.exists_integer {value : RawValue} (h : value.kind = .integer) :
    ∃ n, value = .integer n := by
  cases value with
  | text literal => cases h
  | integer n => exact ⟨n, rfl⟩

lemma Arguments.fallbackName_getD_text (args : Arguments) (name : Name) :
    (args.fallbackName.getD name).text = args.safeCase.getD name.text :=
  (Option.getD_map Name.text name args.fallbackName).symm

/-- A configuration has the kind it was made for, and so has the raw value of its fallback. -/
lemma Configuration.resolve_ok {kind : RawKind} {args : Arguments} {anchor : Span}
    {config : Configuration} (h : resolve kind args anchor = .ok config) :
    config.kind = kind ∧ config.fallback.kind = kind ∧
      config.safeCase = args.safeCase.getD defaultSafeCase := by
  unfold resolve at h
  cases hvalue : args.rawValue with
  | none =>
    simp only [hvalue, Except.ok.injEq] at h
    subst h
    cases kind <;> exact ⟨rfl, rfl, args.fallbackName_getD_text defaultName⟩
  | some value =>
    simp only [hvalue] at h
    split_ifs at h with hkind
    simp only [Except.ok.injEq] at h
    subst h
    exact ⟨rfl, hkind, args.fallbackName_getD_text defaultName⟩

/-! ### Validation -/

lemma Fields.isUnit_iff {fields : Fields} : fields.isUnit = true ↔ fields = .unit := by
  cases fields <;> simp [isUnit]

lemma firstDuplicate?_eq_none_iff (seen : List String) (vs : List Variant) :
    firstDuplicate? seen vs = none ↔
      (vs.map Variant.textValue).Nodup ∧ ∀ v ∈ vs, v.textValue ∉ seen := by
  induction vs generalizing seen with
  | nil => simp [firstDuplicate?]
  | cons v vs ih =>
    rw [firstDuplicate?]
    split_ifs with hseen
    · simp [hseen]
    · rw [ih, List.map_cons, List.nodup_cons]
      simp only [List.mem_cons, not_or, List.mem_map, not_exists, not_and, forall_eq_or_imp]
      constructor
      · rintro ⟨hnodup, hfresh⟩
        exact ⟨⟨fun w hw => (hfresh w hw).1, hnodup⟩, hseen, fun w hw => (hfresh w hw).2⟩
      · rintro ⟨⟨hv, hnodup⟩, -, hfresh⟩
        exact ⟨hnodup, fun w hw => ⟨hv w hw, hfresh w hw⟩⟩

namespace EnumDecl

/-- Validation succeeds exactly when all variants fit the kind and, in a text enum, no two
variants share a text and no text is that of a fallback to be added. -/
lemma validate_eq_ok_iff {decl : EnumDecl} {kind : RawKind} {safeCase : String}
    {fallback : RawValue} :
    decl.validate kind safeCase fallback = .ok () ↔
      (∀ v ∈ decl.variants, v.fits kind = true) ∧
        (kind = .text → (decl.variants.map Variant.textValue).Nodup ∧
          decl.fallbackClashes safeCase fallback = false) := by
  unfold validate
  cases hmisfit : decl.variants.find? fun v => !v.fits kind with
  | some misfit =>
    -- A variant that does not fit stops the check, whatever the texts are.
    have hnot := List.find?_some hmisfit
    have hmem := List.mem_of_find?_eq_some hmisfit
    simp only [reduceCtorEq, false_iff, not_and]
    intro hfits
    simp [hfits misfit hmem] at hnot
  | none =>
    have hfits : ∀ v ∈ decl.variants, v.fits kind = true := by
      simpa using hmisfit
    cases kind with
    | integer => simpa using hfits
    | text =>
      have hdistinct : firstDuplicate? [] decl.variants = none ↔
          (decl.variants.map Variant.textValue).Nodup := by
        simp [firstDuplicate?_eq_none_iff]
      cases hdup : firstDuplicate? [] decl.variants with
      | some duplicate =>
        rw [hdup] at hdistinct
        simp only [reduceCtorEq, false_iff] at hdistinct ⊢
        exact fun h => hdistinct (h.2 trivial).1
      | none =>
        simpa [hdistinct.mp hdup] using fun _ => hfits

/-! ### Inversion -/

/-- The three facts behind a successful expansion of an enum. -/
structure Expands (decl : EnumDecl) (args : Arguments) (config : Configuration) : Prop where
  kind : decl.rawKind? = some config.kind
  resolved : Configuration.resolve config.kind args decl.span = .ok config
  valid : decl.validate config.kind config.safeCase config.fallback = .ok ()

end EnumDecl

/-- An expansion succeeds exactly on an enum whose kind, arguments and variants are in order, and
generates what the configuration asks for. -/
lemma Item.expand?_eq_ok_iff {item : Item} {args : Arguments} {expansion : Expansion} :
    item.expand? args = .ok expansion ↔
      ∃ decl config, item = .enum decl ∧ decl.Expands args config ∧
        expansion = decl.generate config := by
  cases item with
  | other code span => simp [expand?, requireEnum, bind, Except.bind]
  | enum decl =>
    simp only [expand?, requireEnum, bind, Except.bind, pure, Except.pure, Item.enum.injEq]
    constructor
    · intro h
      cases hkind : decl.rawKind? with
      | none => simp [hkind] at h
      | some kind =>
        simp only [hkind] at h
        cases hconfig : Configuration.resolve kind args decl.span with
        | error d => simp [hconfig] at h
        | ok config =>
          simp only [hconfig] at h
          cases hvalid : decl.validate kind config.safeCase config.fallback with
          | error d => simp [hvalid] at h
          | ok =>
            simp only [hvalid, Except.ok.injEq] at h
            obtain ⟨rfl, -, -⟩ := Configuration.resolve_ok hconfig
            exact ⟨decl, config, rfl, ⟨hkind, hconfig, hvalid⟩, h.symm⟩
    · rintro ⟨_, config, rfl, h, rfl⟩
      simp only [h.kind, h.resolved, h.valid]

lemma Item.expand_isSuccess_iff {item : Item} {args : Arguments} :
    (item.expand args).isSuccess = true ↔
      ∃ decl config, item = .enum decl ∧ decl.Expands args config := by
  constructor
  · intro h
    cases hexpand : item.expand? args with
    | error d => simp [expand, hexpand, Expansion.isSuccess, Expansion.failed] at h
    | ok expansion =>
      obtain ⟨decl, config, hitem, hexpands, -⟩ := expand?_eq_ok_iff.mp hexpand
      exact ⟨decl, config, hitem, hexpands⟩
  · rintro ⟨decl, config, hitem, hexpands⟩
    have hexpand := expand?_eq_ok_iff.mpr ⟨decl, config, hitem, hexpands, rfl⟩
    simp [expand, hexpand, Expansion.isSuccess, EnumDecl.generate]

lemma Item.exists_expand_eq_failed {item : Item} {args : Arguments}
    (h : (item.expand args).isSuccess = false) : ∃ d, item.expand args = Expansion.failed d := by
  cases hexpand : item.expand? args with
  | error d => exact ⟨d, by rw [expand, hexpand]⟩
  | ok expansion =>
    obtain ⟨decl, config, hitem, hexpands, -⟩ := expand?_eq_ok_iff.mp hexpand
    have hsuccess := expand_isSuccess_iff.mpr ⟨decl, config, hitem, hexpands⟩
    rw [h] at hsuccess
    cases hsuccess

lemma Item.fallbackVariant?_of_not_isSuccess {item : Item} {args : Arguments}
    (h : (item.expand args).isSuccess = false) : (item.expand args).fallbackVariant? = none := by
  obtain ⟨d, hfailed⟩ := exists_expand_eq_failed h
  rw [hfailed]
  rfl

/-! ### What is generated -/

namespace EnumDecl

@[simp] lemma generate_fallbackVariant? (decl : EnumDecl) (config : Configuration) :
    (decl.generate config).fallbackVariant? = decl.missingFallback? config := by
  cases h : decl.missingFallback? config <;> simp [generate, Expansion.fallbackVariant?, h]

@[simp] lemma generate_routines (decl : EnumDecl) (config : Configuration) :
    (decl.generate config).routines = [DecodeRoutine.ofConfiguration config] := by
  cases h : decl.missingFallback? config <;> simp [generate, Expansion.routines, h]

@[simp] lemma generate_kind (decl : EnumDecl) (config : Configuration) :
    (decl.generate config).kind = some config.kind := rfl

/-- The variants of an enum together with the fallback that an expansion adds. -/
def completed (decl : EnumDecl) (config : Configuration) : List Variant :=
  decl.variants ++ (decl.missingFallback? config).toList

lemma hasVariant_iff {decl : EnumDecl} {name : String} :
    decl.hasVariant name = true ↔ name ∈ decl.variants.map Variant.name := by
  simp [hasVariant]

lemma missingFallback?_eq_some_iff {decl : EnumDecl} {config : Configuration} {v : Variant} :
    decl.missingFallback? config = some v ↔
      decl.hasVariant config.safeCase = false ∧ v = config.fallbackVariant := by
  cases hdeclared : decl.hasVariant config.safeCase <;>
    simp [missingFallback?, hdeclared, eq_comm]

/-- The fallback is among the completed variants, whether it was declared or added. -/
lemma safeCase_mem_completed (decl : EnumDecl) (config : Configuration) :
    config.safeCase ∈ (decl.completed config).map Variant.name := by
  by_cases h : decl.hasVariant config.safeCase = true
  · simp only [completed, missingFallback?, h, if_true, Option.toList_none, List.append_nil]
    exact hasVariant_iff.mp h
  · simp [completed, missingFallback?, h]

/-- What distinguishes the declared variants also distinguishes an added fallback, unless it is
shared by a declared one. -/
lemma completed_map_nodup_iff {β : Type} {decl : EnumDecl} (config : Configuration)
    {f : Variant → β} (hdistinct : (decl.variants.map f).Nodup) :
    ((decl.completed config).map f).Nodup ↔
      (decl.hasVariant config.safeCase = false →
        f config.fallbackVariant ∉ decl.variants.map f) := by
  cases hdeclared : decl.hasVariant config.safeCase with
  | true => simpa [completed, missingFallback?, hdeclared] using hdistinct
  | false =>
    rw [completed, missingFallback?, hdeclared, if_neg Bool.false_ne_true, Option.toList_some,
      List.map_append, List.map_singleton, ← List.concat_eq_append, List.nodup_concat]
    simp [hdistinct]

lemma completed_names_nodup {decl : EnumDecl} (config : Configuration)
    (hnames : (decl.variants.map Variant.name).Nodup) :
    ((decl.completed config).map Variant.name).Nodup := by
  rw [completed_map_nodup_iff config hnames]
  intro hundeclared hmem
  rw [Configuration.fallbackVariant_name, ← hasVariant_iff, hundeclared] at hmem
  exact Bool.false_ne_true hmem

end EnumDecl

/-! ### The rendered enum -/

/-- What rendering never changes in a variant: its name and its fields. -/
def Variant.outline (v : Variant) : String × Fields := (v.name, v.fields)

namespace EnumDecl

lemma dropRawValues_outline (decl : EnumDecl) :
    decl.dropRawValues.variants.map Variant.outline = decl.variants.map Variant.outline := by
  rw [dropRawValues, List.map_map]
  rfl

lemma stripDecoding_outline (decl : EnumDecl) :
    decl.stripDecoding.variants.map Variant.outline = decl.variants.map Variant.outline := by
  unfold stripDecoding
  split_ifs
  · rfl
  · rw [dropHelpers, List.map_map]
    rfl

/-- The enum with a fallback that is to be added, if there is one. -/
def extendedBy (decl : EnumDecl) (added : Option Variant) : EnumDecl := added.elim decl decl.push

lemma extendedBy_variants (decl : EnumDecl) (added : Option Variant) :
    (decl.extendedBy added).variants = decl.variants ++ added.toList := by
  cases added <;> simp [extendedBy, push]

/-- Rendering extends the enum, then drops its texts, then strips its derives. -/
lemma applied_eq (decl : EnumDecl) (expansion : Expansion) :
    decl.applied expansion =
      let extended := decl.extendedBy expansion.fallbackVariant?
      let untexted := if expansion.kind = some .text then extended.dropRawValues else extended
      if expansion.deriveReplacement.isSome then untexted.stripDecoding else untexted := by
  unfold applied
  cases expansion.fallbackVariant? <;> rfl

/-- The rendered enum has the declared variants and then an added fallback. -/
lemma applied_outline (decl : EnumDecl) (expansion : Expansion) :
    (decl.applied expansion).variants.map Variant.outline =
      (decl.variants ++ expansion.fallbackVariant?.toList).map Variant.outline := by
  rw [← extendedBy_variants, applied_eq]
  dsimp only
  split_ifs
  · rw [stripDecoding_outline, dropRawValues_outline]
  · rw [stripDecoding_outline]
  · rw [dropRawValues_outline]
  · rfl

lemma applied_generate_outline (decl : EnumDecl) (config : Configuration) :
    (decl.applied (decl.generate config)).variants.map Variant.outline =
      (decl.completed config).map Variant.outline := by
  rw [applied_outline, generate_fallbackVariant?, completed]

lemma applied_generate_names (decl : EnumDecl) (config : Configuration) :
    (decl.applied (decl.generate config)).variants.map Variant.name =
      (decl.completed config).map Variant.name := by
  have h := congrArg (List.map Prod.fst) (applied_generate_outline decl config)
  rwa [List.map_map, List.map_map] at h

end EnumDecl

/-! ### What success guarantees -/

lemma Configuration.fallbackVariant_textValue {config : Configuration} {literal : String}
    (h : config.fallback = .text literal) : config.fallbackVariant.textValue = literal := by
  simp [Variant.textValue, Variant.textLiteral?, fallbackVariant, h]

namespace EnumDecl.Expands

variable {decl : EnumDecl} {args : Arguments} {config : Configuration}

lemma expand_eq (h : decl.Expands args config) :
    (Item.enum decl).expand args = decl.generate config := by
  have hexpand := Item.expand?_eq_ok_iff.mpr ⟨decl, config, rfl, h, rfl⟩
  rw [Item.expand, hexpand]

lemma fallback_kind (h : decl.Expands args config) : config.fallback.kind = config.kind :=
  (Configuration.resolve_ok h.resolved).2.1

lemma safeCase_eq (h : decl.Expands args config) :
    config.safeCase = args.safeCase.getD Configuration.defaultSafeCase :=
  (Configuration.resolve_ok h.resolved).2.2

lemma fallback_text (h : decl.Expands args config) (hkind : config.kind = .text) :
    ∃ literal, config.fallback = .text literal :=
  RawValue.exists_text (h.fallback_kind.trans hkind)

lemma completed_isUnit (h : decl.Expands args config) :
    ∀ v ∈ decl.completed config, v.fields.isUnit = true := by
  intro v hv
  rw [completed, List.mem_append, Option.mem_toList] at hv
  rcases hv with hv | hv
  · have hfits := (validate_eq_ok_iff.mp h.valid).1 v hv
    rw [Variant.fits, Bool.and_eq_true] at hfits
    exact hfits.1
  · rw [missingFallback?] at hv
    split_ifs at hv
    cases hv
    rfl

lemma applied_isUnit (h : decl.Expands args config) :
    ∀ v ∈ (decl.applied (decl.generate config)).variants, v.fields.isUnit = true := by
  intro v hv
  have houtline : v.outline ∈ (decl.completed config).map Variant.outline := by
    rw [← applied_generate_outline]
    exact List.mem_map_of_mem hv
  obtain ⟨w, hw, hwv⟩ := List.mem_map.mp houtline
  have hfields : w.fields = v.fields := congrArg Prod.snd hwv
  rw [← hfields]
  exact h.completed_isUnit w hw

/-- The texts of a text enum stay distinct when the fallback is added. -/
lemma completed_texts_nodup (h : decl.Expands args config) (hkind : config.kind = .text) :
    ((decl.completed config).map Variant.textValue).Nodup := by
  obtain ⟨literal, hliteral⟩ := h.fallback_text hkind
  obtain ⟨htexts, hclash⟩ := (validate_eq_ok_iff.mp h.valid).2 hkind
  rw [completed_map_nodup_iff config htexts]
  intro hundeclared
  rw [Configuration.fallbackVariant_textValue hliteral]
  simpa [fallbackClashes, hliteral, hundeclared] using hclash

/-! ### The lookup -/

/-- The lookup of a text enum pairs each variant, the added one included, with its text. -/
lemma lookup_text (h : decl.Expands args config) (hkind : config.kind = .text) :
    decl.lookup config =
      .text decl.name ((decl.completed config).map fun v => (v.name, v.textValue)) := by
  obtain ⟨literal, hliteral⟩ := h.fallback_text hkind
  rw [lookup, hkind]
  by_cases hdeclared : decl.hasVariant config.safeCase = true
  · simp [fallbackArm, completed, missingFallback?, hdeclared]
  · have htext := Configuration.fallbackVariant_textValue hliteral
    simp [fallbackArm, completed, missingFallback?, hdeclared, hliteral, htext]

end EnumDecl.Expands

lemma EnumDecl.lookup_integer {decl : EnumDecl} {config : Configuration}
    (hkind : config.kind = .integer) :
    decl.lookup config = .integer decl.name ((decl.completed config).map Variant.name) := by
  rw [lookup, hkind]
  by_cases hdeclared : decl.hasVariant config.safeCase = true
  · simp [completed, missingFallback?, hdeclared]
  · simp [completed, missingFallback?, hdeclared]

/-! ### The rendered code -/

/-- What takes the place of an enum that was expanded: the enum itself, its routine, its lookup
and its conformance. -/
structure Rendering where
  decl : EnumDecl
  routine : DecodeRoutine
  lookup : RawLookup
  conformance : Conformance

/-- The declarations of a rendering, in order. -/
def Rendering.declarations (r : Rendering) : List Declaration :=
  [.item (.enum r.decl), .inherent r.decl.name [r.routine], .lookup r.lookup,
    .conformance r.conformance]

/-- The rendering of an enum under a configuration. -/
def EnumDecl.rendering (decl : EnumDecl) (config : Configuration) : Rendering where
  decl := decl.applied (decl.generate config)
  routine := DecodeRoutine.ofConfiguration config
  lookup := decl.lookup config
  conformance := ⟨decl.name⟩

lemma EnumDecl.Expands.render_eq {decl : EnumDecl} {args : Arguments} {config : Configuration}
    (h : decl.Expands args config) :
    (Item.enum decl).render ((Item.enum decl).expand args) =
      (decl.rendering config).declarations := by
  rw [h.expand_eq, Item.render, generate_routines]
  · cases hdecoding : decl.declaresDecoding <;>
      simp [Rendering.declarations, rendering, generate, extension?, deriveReplacement?,
        hdecoding]
  · rfl

end FallbackEnum
