import FallbackEnum.Catalog
import FallbackEnum.Proofs.Expansion
import FallbackEnum.Proofs.LookupCode

/-!
# Coherence of the rendered code

The rendered enum, the two tables of its lookup and its decode routine are made in different
places. They agree: each function of the lookup has one arm for each variant, in order and with
the scalar of that variant, and the routine falls back to one of the variants.

Names are compared as they are spelled. A variant `r#Name` and a variant `Name` are the same to a
compiler, so an enum that declares its fallback in the other spelling gets it twice.
-/

namespace FallbackEnum

/-! ### Names -/

/-- The name that a variant goes by, in whichever way it is spelled. -/
def Variant.plainName (v : Variant) : String := Keyword.unraw v.name

namespace EnumDecl

lemma applied_generate_plainNames (decl : EnumDecl) (config : Configuration) :
    (decl.applied (decl.generate config)).variants.map Variant.plainName =
      (decl.completed config).map Variant.plainName := by
  have h := congrArg (List.map Keyword.unraw) (applied_generate_names decl config)
  rwa [List.map_map, List.map_map] at h

lemma missingFallback?_isSome (decl : EnumDecl) (config : Configuration) :
    (decl.missingFallback? config).isSome = !decl.hasVariant config.safeCase := by
  cases h : decl.hasVariant config.safeCase <;> simp [missingFallback?, h]

/-- The plain names stay distinct exactly if the fallback is not added beside a variant that goes
by its name. -/
lemma completed_plainNames_nodup_iff {decl : EnumDecl} (config : Configuration)
    (hdistinct : (decl.variants.map Variant.plainName).Nodup) :
    ((decl.completed config).map Variant.plainName).Nodup ↔
      (decl.hasVariant config.safeCase = false →
        ∀ v ∈ decl.variants, v.plainName ≠ Keyword.unraw config.safeCase) := by
  rw [completed_map_nodup_iff config hdistinct]
  simp only [List.mem_map, not_exists, not_and]
  rfl

/-- A variant that goes by the name of a fallback either is spelled like it or makes it be
added. -/
lemma spelled_iff_not_added {decl : EnumDecl} (safeCase : String)
    (hdistinct : (decl.variants.map Variant.plainName).Nodup) :
    (decl.hasVariant safeCase = false →
        ∀ v ∈ decl.variants, v.plainName ≠ Keyword.unraw safeCase) ↔
      ∀ v ∈ decl.variants, v.plainName = Keyword.unraw safeCase → v.name = safeCase := by
  constructor
  · intro h v hv hplain
    cases hdeclared : decl.hasVariant safeCase with
    | false => exact absurd hplain (h hdeclared v hv)
    | true =>
      obtain ⟨w, hw, hname⟩ := List.mem_map.mp (hasVariant_iff.mp hdeclared)
      have hsame : v.plainName = w.plainName := by rw [hplain, Variant.plainName, hname]
      rw [List.inj_on_of_nodup_map hdistinct hv hw hsame, hname]
  · intro h hundeclared v hv hplain
    have hmem : safeCase ∈ decl.variants.map Variant.name :=
      List.mem_map.mpr ⟨v, hv, h v hv hplain⟩
    rw [hasVariant_iff.mpr hmem] at hundeclared
    exact Bool.noConfusion hundeclared

end EnumDecl

/-- The variants of a rendered enum go by distinct names exactly if the fallback was not added
beside a variant that goes by its name; that is, if every such variant is spelled like the
fallback. -/
theorem rendered_plainNames_nodup_iff {decl : EnumDecl} {args : Arguments}
    (hdistinct : (decl.variants.map Variant.plainName).Nodup)
    (hsuccess : ((Item.enum decl).expand args).isSuccess = true) :
    ∃ r : Rendering,
      (Item.enum decl).render ((Item.enum decl).expand args) = r.declarations ∧
      ((r.decl.variants.map Variant.plainName).Nodup ↔
        (((Item.enum decl).expand args).fallbackVariant?.isSome = true →
          ∀ v ∈ decl.variants,
            v.plainName ≠ Keyword.unraw (args.safeCase.getD Configuration.defaultSafeCase))) ∧
      ((r.decl.variants.map Variant.plainName).Nodup ↔
        ∀ v ∈ decl.variants,
          v.plainName = Keyword.unraw (args.safeCase.getD Configuration.defaultSafeCase) →
            v.name = args.safeCase.getD Configuration.defaultSafeCase) := by
  obtain ⟨_, config, hitem, h⟩ := Item.expand_isSuccess_iff.mp hsuccess
  cases hitem
  have hcondition := EnumDecl.completed_plainNames_nodup_iff config hdistinct
  refine ⟨decl.rendering config, h.render_eq, ?_, ?_⟩
  · rw [EnumDecl.rendering, EnumDecl.applied_generate_plainNames, hcondition, h.expand_eq,
      EnumDecl.generate_fallbackVariant?, EnumDecl.missingFallback?_isSome, h.safeCase_eq,
      Bool.not_eq_true']
  · rw [EnumDecl.rendering, EnumDecl.applied_generate_plainNames, hcondition,
      EnumDecl.spelled_iff_not_added _ hdistinct, h.safeCase_eq]

/-- An enum that declares the usual fallback by its raw name. -/
def rawUnknown : EnumDecl :=
  Catalog.declare .text "RawUnknown" ["Debug"] [Catalog.text "r#Unknown" "none"]

/-- The fallback is added beside the variant that already goes by its name. -/
theorem rawUnknown_names_clash :
    (rawUnknown.variants.map Variant.plainName).Nodup ∧
      ((Item.enum rawUnknown).expand {}).isSuccess = true ∧
      ∃ r : Rendering,
        (Item.enum rawUnknown).render ((Item.enum rawUnknown).expand {}) = r.declarations ∧
        ¬ (r.decl.variants.map Variant.plainName).Nodup := by
  have hdistinct : (rawUnknown.variants.map Variant.plainName).Nodup := by decide
  have hsuccess : ((Item.enum rawUnknown).expand {}).isSuccess = true := by decide +kernel
  obtain ⟨_, config, hitem, h⟩ := Item.expand_isSuccess_iff.mp hsuccess
  cases hitem
  refine ⟨hdistinct, hsuccess, rawUnknown.rendering config, h.render_eq, ?_⟩
  rw [EnumDecl.rendering, EnumDecl.applied_generate_plainNames,
    EnumDecl.completed_plainNames_nodup_iff config hdistinct, h.safeCase_eq]
  intro hfresh
  exact hfresh (by decide) _ List.mem_cons_self (by decide)

/-- Raw names beside a raw fallback of another name are no clash. -/
theorem keywords_plainNames_nodup :
    (Catalog.keywords.decl.variants.map Variant.plainName).Nodup ∧
      ((Item.enum Catalog.keywords.decl).expand Catalog.keywords.args).isSuccess = true ∧
      ∃ r : Rendering,
        (Item.enum Catalog.keywords.decl).render
          ((Item.enum Catalog.keywords.decl).expand Catalog.keywords.args) = r.declarations ∧
        (r.decl.variants.map Variant.plainName).Nodup := by
  have hdistinct : (Catalog.keywords.decl.variants.map Variant.plainName).Nodup := by decide
  have hsuccess :
      ((Item.enum Catalog.keywords.decl).expand Catalog.keywords.args).isSuccess = true := by
    decide +kernel
  obtain ⟨r, hrender, -, hnames⟩ := rendered_plainNames_nodup_iff hdistinct hsuccess
  exact ⟨hdistinct, hsuccess, r, hrender, hnames.mpr (by decide)⟩

/-! ### Arms -/

/-- The scalar that stands for a variant in the code of a lookup of a kind. -/
def Variant.codeScalar (kind : RawKind) (v : Variant) : CodeScalar :=
  match kind with
  | .text => .text v.textValue
  | .integer => .numberOf v.name

/-- The tables of a generated lookup have one arm for each variant, the added one included. -/
lemma EnumDecl.Expands.lookup_tables {decl : EnumDecl} {args : Arguments}
    {config : Configuration} (h : decl.Expands args config) :
    (decl.lookup config).tables =
      { finding := ((decl.completed config).map fun v =>
          (some (v.codeScalar config.kind), some v.name)) ++ [(none, none)]
        giving := (decl.completed config).map fun v => (v.name, v.codeScalar config.kind) } := by
  cases hkind : config.kind with
  | text => simp [h.lookup_text hkind, RawLookup.tables, Variant.codeScalar]
  | integer => simp [lookup_integer hkind, RawLookup.tables, Variant.codeScalar]

/-- The rendered enum, its lookup and its routine agree: the arms of both functions of the lookup
name the variants of the enum in order, each with its own scalar; no variant has fields; and the
routine reads a scalar of the kind of the enum and falls back to one of the variants. -/
theorem rendered_code_coherent {item : Item} {args : Arguments}
    (hsuccess : (item.expand args).isSuccess = true) :
    ∃ (decl : EnumDecl) (kind : RawKind) (r : Rendering) (tables : LookupTables)
      (fallback : String),
      item = .enum decl ∧ (item.expand args).kind = some kind ∧
      item.render (item.expand args) = r.declarations ∧
      LookupTables.read? r.lookup.tokens = some tables ∧
      DecodeRoutine.readFallback? r.routine.tokens = some fallback ∧
      DecodeRoutine.read? r.routine.tokens = some ⟨kind, fallback⟩ ∧
      tables.foundNames = r.decl.variants.map Variant.name ∧
      tables.giving.map Prod.fst = r.decl.variants.map Variant.name ∧
      tables.giving = (decl.variants ++ (item.expand args).fallbackVariant?.toList).map
        (fun v => (v.name, v.codeScalar kind)) ∧
      tables.finding =
        tables.giving.map (fun arm => (some arm.2, some arm.1)) ++ [(none, none)] ∧
      (∀ v ∈ r.decl.variants, v.fields.isUnit = true) ∧
      fallback = args.safeCase.getD Configuration.defaultSafeCase ∧
      fallback ∈ r.decl.variants.map Variant.name := by
  obtain ⟨decl, config, rfl, h⟩ := Item.expand_isSuccess_iff.mp hsuccess
  have hnames := EnumDecl.applied_generate_names decl config
  refine ⟨decl, config.kind, decl.rendering config, (decl.lookup config).tables, config.safeCase,
    rfl, ?_, h.render_eq, RawLookup.read?_tokens _, DecodeRoutine.readFallback?_tokens _,
    DecodeRoutine.read?_tokens _, ?_, ?_, ?_, ?_, ?_, h.safeCase_eq, ?_⟩
  · rw [h.expand_eq, EnumDecl.generate_kind]
  · rw [EnumDecl.rendering, hnames, h.lookup_tables, LookupTables.foundNames]
    simp [List.filterMap_map]
  · rw [EnumDecl.rendering, hnames, h.lookup_tables, List.map_map]
    rfl
  · rw [h.expand_eq, EnumDecl.generate_fallbackVariant?, h.lookup_tables, EnumDecl.completed]
  · rw [h.lookup_tables, List.map_map]
    rfl
  · exact h.applied_isUnit
  · rw [EnumDecl.rendering, hnames]
    exact EnumDecl.safeCase_mem_completed decl config

/-- An enum of numbers with a fallback of its own, which is added to all three. -/
theorem category_code_coherent :
    ((Item.enum Catalog.category.decl).expand Catalog.category.args).isSuccess = true ∧
      ∃ (r : Rendering) (tables : LookupTables),
        (Item.enum Catalog.category.decl).render
          ((Item.enum Catalog.category.decl).expand Catalog.category.args) = r.declarations ∧
        LookupTables.read? r.lookup.tokens = some tables ∧
        tables.giving = [("Credit", .numberOf "Credit"), ("Debit", .numberOf "Debit"),
          ("General", .numberOf "General")] ∧
        r.decl.variants.map Variant.name = ["Credit", "Debit", "General"] ∧
        DecodeRoutine.readFallback? r.routine.tokens = some "General" := by
  have hsuccess :
      ((Item.enum Catalog.category.decl).expand Catalog.category.args).isSuccess = true := by
    decide +kernel
  have hinteger : ((Item.enum Catalog.category.decl).expand Catalog.category.args).kind =
      some .integer := by
    decide +kernel
  obtain ⟨_, kind, r, tables, fallback, hitem, hkind, hrender, htables, hfallback, -, -, hnames,
    hgiving, -, -, hsafe, -⟩ := rendered_code_coherent hsuccess
  cases hitem
  cases hinteger.symm.trans hkind
  refine ⟨hsuccess, r, tables, hrender, htables, ?_, ?_, ?_⟩
  · rw [hgiving]
    decide +kernel
  · rw [← hnames, hgiving]
    decide +kernel
  · rw [hfallback, hsafe]
    decide

end FallbackEnum
