import FallbackEnum.Proofs.Decoding
import FallbackEnum.Proofs.Outcome
import FallbackEnum.Proofs.Stripping

/-!
# Text enums that change

A lookup of texts goes by entries, each with the name and the text of a variant. In an enum that
expands, no two entries share a text, so it does not matter in which order they stand. This makes
an expansion independent of the order of the variants, down to the kind of fault if it fails. And
a variant that is new brings one entry: it takes its text from the fallback and changes nothing
else.
-/

namespace FallbackEnum

/-! ### Entries -/

/-- The name and the text of a variant. -/
def Variant.entry (v : Variant) : String × String := (v.name, v.textValue)

namespace EnumDecl

variable {decl other : EnumDecl} {args : Arguments} {config : Configuration}

/-- The entries of a text enum, with that of a fallback to be added. -/
def entries (decl : EnumDecl) (config : Configuration) : List (String × String) :=
  (decl.completed config).map Variant.entry

lemma entries_names (decl : EnumDecl) (config : Configuration) :
    (decl.entries config).map Prod.fst = (decl.completed config).map Variant.name := by
  rw [entries, List.map_map]
  rfl

lemma entries_texts (decl : EnumDecl) (config : Configuration) :
    (decl.entries config).map Prod.snd = (decl.completed config).map Variant.textValue := by
  rw [entries, List.map_map]
  rfl

lemma Expands.fromRaw?_eq_some_iff_entry (h : decl.Expands args config)
    (hkind : config.kind = .text) (number : String → Int64) {name text : String} :
    (decl.lookup config).fromRaw? number (.text text) = some name ↔
      (name, text) ∈ decl.entries config := by
  rw [h.fromRaw?_text_eq_some_iff hkind]
  simp [entries, Variant.entry]

lemma Expands.rawValue?_eq_some_iff_entry (h : decl.Expands args config)
    (hkind : config.kind = .text) (hnames : (decl.variants.map Variant.name).Nodup)
    (number : String → Int64) {name : String} {value : RawValue} :
    (decl.lookup config).rawValue? number name = some value ↔
      ∃ text, (name, text) ∈ decl.entries config ∧ value = .text text := by
  rw [h.rawValue?_text_eq_some_iff hkind hnames]
  simp [entries, Variant.entry, and_assoc]

/-! ### More variants, in another order -/

/-- The second declaration has the raw kind and the variants of the first, and those that are
added, in any order. All else may differ, such as places and other attributes. -/
structure Extends (decl : EnumDecl) (added : List Variant) (other : EnumDecl) : Prop where
  kind : other.rawKind? = decl.rawKind?
  variants : (other.variants.map Variant.plain).Perm ((added ++ decl.variants).map Variant.plain)

lemma extends_insert (before after : List Variant) (v : Variant)
    (h : decl.variants = before ++ after) :
    decl.Extends [v] { decl with variants := before ++ v :: after } where
  kind := rfl
  variants := by
    rw [h]
    exact List.perm_middle.map _

lemma extends_perm {vs : List Variant} (h : vs.Perm decl.variants) :
    decl.Extends [] { decl with variants := vs } where
  kind := rfl
  variants := h.map _

namespace Extends

variable {added : List Variant}

lemma map_perm {β : Type} (h : decl.Extends added other) (f : Variant → β)
    (hf : ∀ v, f v.plain = f v) :
    (other.variants.map f).Perm ((added ++ decl.variants).map f) := by
  have hmap := h.variants.map f
  simpa only [List.map_map, Function.comp_def, hf] using hmap

lemma names (h : decl.Extends added other) :
    (other.variants.map Variant.name).Perm ((added ++ decl.variants).map Variant.name) :=
  h.map_perm _ fun _ => rfl

lemma hasVariant (h : decl.Extends added other) {name : String}
    (hnew : name ∉ added.map Variant.name) : other.hasVariant name = decl.hasVariant name := by
  rw [Bool.eq_iff_iff, hasVariant_iff, hasVariant_iff, h.names.mem_iff, List.map_append,
    List.mem_append]
  exact or_iff_right hnew

lemma nodup_names (h : decl.Extends added other)
    (hnames : (other.variants.map Variant.name).Nodup) :
    (decl.variants.map Variant.name).Nodup := by
  rw [h.names.nodup_iff, List.map_append] at hnames
  exact hnames.of_append_right

/-- Unless the fallback is among them, the variants that are added bring their entries, and there
is no other difference. -/
lemma entries_perm (h : decl.Extends added other) (config : Configuration)
    (hnew : config.safeCase ∉ added.map Variant.name) :
    (other.entries config).Perm (added.map Variant.entry ++ decl.entries config) := by
  have hentries := h.map_perm Variant.entry fun _ => rfl
  rw [List.map_append] at hentries
  have hfallback : other.missingFallback? config = decl.missingFallback? config := by
    rw [missingFallback?, h.hasVariant hnew, missingFallback?]
  rw [entries, entries, completed, completed, List.map_append, List.map_append, hfallback,
    ← List.append_assoc]
  exact hentries.append_right _

end Extends

end EnumDecl

/-! ### Faults -/

lemma Arguments.Fit.exists_literal {args : Arguments} (hfit : args.Fit .text) :
    ∃ literal, (Configuration.completing .text args).fallback = .text literal := by
  have hresolved := Configuration.resolve_of_fit Span.nowhere hfit
  exact RawValue.exists_text (Configuration.resolve_ok hresolved).2.1

namespace EnumDecl

variable {decl other : EnumDecl} {args : Arguments} {config : Configuration}

/-- The entries have distinct texts exactly if the variants have, and a fallback to be added
clashes with none of them. -/
lemma entries_texts_nodup_iff {literal : String} (hfallback : config.fallback = .text literal) :
    ((decl.entries config).map Prod.snd).Nodup ↔
      (decl.variants.map Variant.textValue).Nodup ∧
        decl.fallbackClashes config.safeCase config.fallback = false := by
  have hclash : decl.fallbackClashes config.safeCase config.fallback = false ↔
      (decl.hasVariant config.safeCase = false →
        config.fallbackVariant.textValue ∉ decl.variants.map Variant.textValue) := by
    rw [Configuration.fallbackVariant_textValue hfallback, hfallback]
    simp [fallbackClashes]
  rw [entries_texts, hclash]
  constructor
  · intro hdistinct
    have htexts : (decl.variants.map Variant.textValue).Nodup := by
      rw [completed, List.map_append] at hdistinct
      exact hdistinct.of_append_left
    exact ⟨htexts, (completed_map_nodup_iff config htexts).mp hdistinct⟩
  · rintro ⟨htexts, hunique⟩
    exact (completed_map_nodup_iff config htexts).mpr hunique

/-- In a text enum the check compares the texts of the entries. -/
lemma validateFor_text_fault (decl : EnumDecl) (hkind : config.kind = .text) {literal : String}
    (hfallback : config.fallback = .text literal) :
    (decl.validateFor config).mapError Diagnostic.fault =
      if ∀ v ∈ decl.variants, v.fits .text = true then
        if ((decl.entries config).map Prod.snd).Nodup then .ok ()
        else .error .duplicateRawValue
      else .error .invalidVariantRawValue := by
  simp only [validateFor_fault, hkind, forall_const, entries_texts_nodup_iff hfallback]

namespace Extends

lemma all_fit_iff (h : decl.Extends [] other) (kind : RawKind) :
    (∀ v ∈ other.variants, v.fits kind = true) ↔ ∀ v ∈ decl.variants, v.fits kind = true := by
  have hfits := h.map_perm (Variant.fits kind) fun _ => rfl
  have hall : ∀ vs : List Variant,
      (∀ v ∈ vs, v.fits kind = true) ↔ false ∉ vs.map (Variant.fits kind) := by
    intro vs
    simp
  rw [hall, hall, hfits.mem_iff, List.nil_append]

/-- The order of the variants does not matter to the check, up to the place of a fault. -/
lemma validateFor_fault_eq (h : decl.Extends [] other) (hkind : config.kind = .text)
    {literal : String} (hfallback : config.fallback = .text literal) :
    (other.validateFor config).mapError Diagnostic.fault =
      (decl.validateFor config).mapError Diagnostic.fault := by
  have htexts := (h.entries_perm config List.not_mem_nil).map Prod.snd
  rw [List.map_nil, List.nil_append] at htexts
  simp only [validateFor_text_fault _ hkind hfallback, h.all_fit_iff, htexts.nodup_iff]

/-- The order of the variants does not matter to the kind of fault that is reported. -/
lemma faults (h : decl.Extends [] other) (hkind : decl.rawKind? = some .text)
    (args : Arguments) :
    ((Item.enum other).expand args).diagnostics.map Diagnostic.fault =
      ((Item.enum decl).expand args).diagnostics.map Diagnostic.fault := by
  refine Item.faults_congr h.kind fun kind hdecl hfit => ?_
  rw [hkind, Option.some.injEq] at hdecl
  subst hdecl
  obtain ⟨literal, hliteral⟩ := hfit.exists_literal
  exact h.validateFor_fault_eq rfl hliteral

end Extends

/-! ### Lookups of both -/

/-- Two expansions with the same arguments go by the same configuration. -/
lemma Extends.exists_expands {added : List Variant} (h : decl.Extends added other)
    (hkind : decl.rawKind? = some .text)
    (hdecl : ((Item.enum decl).expand args).isSuccess = true)
    (hother : ((Item.enum other).expand args).isSuccess = true) :
    ∃ config, config.kind = .text ∧ decl.Expands args config ∧ other.Expands args config := by
  obtain ⟨_, config, hitem, hexpands⟩ := Item.expand_isSuccess_iff.mp hdecl
  cases hitem
  obtain ⟨_, _, hitem, hagain⟩ := Item.expand_isSuccess_iff.mp hother
  cases hitem
  cases hexpands.config_eq hagain h.kind
  exact ⟨config, Option.some.inj (hexpands.kind.symm.trans hkind), hexpands, hagain⟩

section Lookups

variable {added : List Variant} (h : decl.Extends added other) (hdecl : decl.Expands args config)
  (hother : other.Expands args config) (hkind : config.kind = .text)
  (hnew : config.safeCase ∉ added.map Variant.name) (number : String → Int64)

include h hdecl hother hkind hnew

lemma Extends.fromRaw?_eq (number' : String → Int64) {text : String}
    (htext : text ∉ added.map Variant.textValue) :
    (other.lookup config).fromRaw? number' (.text text) =
      (decl.lookup config).fromRaw? number (.text text) := by
  apply Option.ext
  intro name
  have hentry : (name, text) ∉ added.map Variant.entry := by
    intro hmem
    obtain ⟨v, hv, hvalue⟩ := List.mem_map.mp hmem
    exact htext (List.mem_map.mpr ⟨v, hv, congrArg Prod.snd hvalue⟩)
  rw [hother.fromRaw?_eq_some_iff_entry hkind, hdecl.fromRaw?_eq_some_iff_entry hkind,
    (h.entries_perm config hnew).mem_iff, List.mem_append]
  exact or_iff_right hentry

lemma Extends.rawValue?_eq (hnames : (other.variants.map Variant.name).Nodup) {name : String}
    (hname : name ∉ added.map Variant.name) :
    (other.lookup config).rawValue? number name =
      (decl.lookup config).rawValue? number name := by
  apply Option.ext
  intro value
  have hentry : ∀ text, (name, text) ∉ added.map Variant.entry := by
    intro text hmem
    obtain ⟨v, hv, hvalue⟩ := List.mem_map.mp hmem
    exact hname (List.mem_map.mpr ⟨v, hv, congrArg Prod.fst hvalue⟩)
  rw [hother.rawValue?_eq_some_iff_entry hkind hnames,
    hdecl.rawValue?_eq_some_iff_entry hkind (h.nodup_names hnames)]
  simp only [(h.entries_perm config hnew).mem_iff, List.mem_append, hentry, false_or]

end Lookups

end EnumDecl

/-! ### The order of variants -/

/-- An expanded enum is rendered in this way, with these tables in the code of its lookup. -/
structure EnumDecl.Renders (decl : EnumDecl) (args : Arguments) (r : Rendering)
    (tables : LookupTables) : Prop where
  declarations : (Item.enum decl).render ((Item.enum decl).expand args) = r.declarations
  tables : LookupTables.read? r.lookup.tokens = some tables

lemma EnumDecl.Expands.renders {decl : EnumDecl} {args : Arguments} {config : Configuration}
    (h : decl.Expands args config) :
    decl.Renders args (decl.rendering config) (decl.lookup config).tables :=
  ⟨h.render_eq, RawLookup.read?_tokens _⟩

/-- The order of the variants of a text enum does not matter. In every order the expansion
succeeds, or it fails with the same fault; it adds the same fallback or none; and the code of the
lookup finds the same variants and gives the same texts. -/
theorem text_order_irrelevant (number : String → Int64) {decl other : EnumDecl}
    (args : Arguments)
    (hkind : decl.rawKind? = some .text) (hnames : (decl.variants.map Variant.name).Nodup)
    (h : decl.Extends [] other) :
    ((Item.enum other).expand args).isSuccess = ((Item.enum decl).expand args).isSuccess ∧
    ((Item.enum other).expand args).diagnostics.map Diagnostic.fault =
      ((Item.enum decl).expand args).diagnostics.map Diagnostic.fault ∧
    ((Item.enum other).expand args).fallbackVariant? =
      ((Item.enum decl).expand args).fallbackVariant? ∧
    (((Item.enum decl).expand args).isSuccess = true →
      ∃ (r r' : Rendering) (tables tables' : LookupTables),
        decl.Renders args r tables ∧ other.Renders args r' tables' ∧
        (r'.decl.variants.map Variant.name).Perm (r.decl.variants.map Variant.name) ∧
        (∀ s, tables'.fromRaw? number (.text s) = tables.fromRaw? number (.text s)) ∧
        ∀ name, tables'.rawValue? number name = tables.rawValue? number name) := by
  have hfaults := h.faults hkind args
  have hsame : ((Item.enum other).expand args).isSuccess =
      ((Item.enum decl).expand args).isSuccess := by
    have hempty := congrArg List.isEmpty hfaults
    rwa [List.isEmpty_map, List.isEmpty_map] at hempty
  have hdeclared : ∀ name, other.hasVariant name = decl.hasVariant name :=
    fun _ => h.hasVariant List.not_mem_nil
  refine ⟨hsame, hfaults, Item.fallbackVariant?_congr h.kind hdeclared hsame, ?_⟩
  intro hsuccess
  obtain ⟨config, htext, hdecl, hother⟩ :=
    h.exists_expands hkind hsuccess (hsame.trans hsuccess)
  have hnew : config.safeCase ∉ ([] : List Variant).map Variant.name := List.not_mem_nil
  have hdistinct : (other.variants.map Variant.name).Nodup := h.names.nodup_iff.mpr hnames
  refine ⟨_, _, _, _, hdecl.renders, hother.renders, ?_, ?_, ?_⟩
  · have hentries := (h.entries_perm config hnew).map Prod.fst
    rw [EnumDecl.rendering, EnumDecl.rendering, EnumDecl.applied_generate_names,
      EnumDecl.applied_generate_names, ← EnumDecl.entries_names, ← EnumDecl.entries_names]
    exact hentries
  · intro s
    rw [RawLookup.tables_fromRaw?, RawLookup.tables_fromRaw?]
    exact h.fromRaw?_eq hdecl hother htext hnew number number List.not_mem_nil
  · intro name
    rw [RawLookup.tables_rawValue?, RawLookup.tables_rawValue?]
    exact h.rawValue?_eq hdecl hother htext hnew number hdistinct List.not_mem_nil

/-- The plans in the opposite order, with the declared fallback still between the others. -/
def planReversed : EnumDecl :=
  { Catalog.plan.decl with variants := Catalog.plan.decl.variants.reverse }

/-- Both orders of the plans are expanded. A new fallback with a text that is taken is refused in
both. -/
theorem plan_order_irrelevant :
    Catalog.plan.decl.rawKind? = some .text ∧
      (Catalog.plan.decl.variants.map Variant.name).Nodup ∧
      Catalog.plan.decl.Extends [] planReversed ∧
      ((Item.enum planReversed).expand
        { fallbackName := some Catalog.otherName
          rawValue := some (.text "free") }).diagnostics.map
          Diagnostic.fault = [.duplicateRawValue] ∧
      ((Item.enum planReversed).expand {}).isSuccess = true ∧
      ∃ (r r' : Rendering) (tables tables' : LookupTables),
        Catalog.plan.decl.Renders {} r tables ∧ planReversed.Renders {} r' tables' ∧
        tables'.fromRaw? (fun _ => 0) (.text "legacy") =
          tables.fromRaw? (fun _ => 0) (.text "legacy") ∧
        tables'.rawValue? (fun _ => 0) "Unknown" = tables.rawValue? (fun _ => 0) "Unknown" := by
  have hkind : Catalog.plan.decl.rawKind? = some .text := by decide +kernel
  have hnames : (Catalog.plan.decl.variants.map Variant.name).Nodup := by decide
  have hextends : Catalog.plan.decl.Extends [] planReversed :=
    EnumDecl.extends_perm (List.reverse_perm _)
  have hfault : ((Item.enum Catalog.plan.decl).expand
      { fallbackName := some Catalog.otherName
        rawValue := some (.text "free") }).diagnostics.map
        Diagnostic.fault = [.duplicateRawValue] := by
    decide +kernel
  have hsuccess : ((Item.enum Catalog.plan.decl).expand {}).isSuccess = true := by decide +kernel
  have horder := fun args => text_order_irrelevant (fun _ => 0) args hkind hnames hextends
  obtain ⟨-, hfaults, -, -⟩ :=
    horder { fallbackName := some Catalog.otherName, rawValue := some (.text "free") }
  obtain ⟨hsame, -, -, hlookups⟩ := horder {}
  obtain ⟨r, r', tables, tables', hrenders, hrenders', -, hfinds, hgives⟩ := hlookups hsuccess
  exact ⟨hkind, hnames, hextends, hfaults.trans hfault, hsame.trans hsuccess, r, r', tables,
    tables', hrenders, hrenders', hfinds _, hgives _⟩

/-! ### A new variant -/

/-- The second enum decodes one text to a variant, for which the first one takes the fallback.
They agree on all else, and also in the errors. -/
structure RawEnum.DiffersOnlyAt (e : RawEnum) (text variant : String) (other : RawEnum) :
    Prop where
  settle_eq : ∀ s, s ≠ text →
    other.settle (.text s) other.safeCase = e.settle (.text s) e.safeCase
  settle_first : e.settle (.text text) e.safeCase = (e.safeCase, [.text text])
  settle_second : other.settle (.text text) other.safeCase = (variant, [])
  run_eq : ∀ shape source, ¬ Json.IsRaw source.toList (.text text) →
    (other.run shape source).1 = (e.run shape source).1
  run_first : ∀ shape source, Json.IsRaw source.toList (.text text) →
    e.run shape source = (.ok e.safeCase, [e.logLine (.text text)])
  run_second : ∀ shape source, Json.IsRaw source.toList (.text text) →
    other.run shape source = (.ok variant, [])

/-- If the lookups of two enums differ in one text only, so does what they decode. -/
lemma RawEnum.differsOnlyAt_of_fromRaw? {e other : RawEnum} {text variant : String}
    (hkind : e.kind = .text) (hroutine : other.routine = e.routine)
    (heq : ∀ s, s ≠ text → other.fromRaw? (.text s) = e.fromRaw? (.text s))
    (hfirst : e.fromRaw? (.text text) = none)
    (hsecond : other.fromRaw? (.text text) = some variant) :
    e.DiffersOnlyAt text variant other := by
  have hother : other.kind = e.kind := congrArg DecodeRoutine.kind hroutine
  have hsafeCase : other.safeCase = e.safeCase := congrArg DecodeRoutine.safeCase hroutine
  have hsettle : ∀ s, s ≠ text →
      other.settle (.text s) other.safeCase = e.settle (.text s) e.safeCase := by
    intro s hs
    rw [settle, settle, heq s hs, hsafeCase]
  have hsettleFirst : e.settle (.text text) e.safeCase = (e.safeCase, [.text text]) := by
    rw [settle, hfirst]
  have hsettleSecond : other.settle (.text text) other.safeCase = (variant, []) := by
    rw [settle, hsecond]
  refine ⟨hsettle, hsettleFirst, hsettleSecond, ?_, ?_, ?_⟩
  · intro shape source hraw
    apply run_result_congr hother
    intro value hvalue hvalueRaw
    cases value with
    | integer n => cases hvalue.trans hkind
    | text s =>
      have hs : s ≠ text := by
        rintro rfl
        exact hraw hvalueRaw
      rw [hsettle s hs]
  · intro shape source hraw
    rw [run_of_isRaw hraw hkind.symm, hsettleFirst]
    rfl
  · intro shape source hraw
    rw [run_of_isRaw hraw (hother.trans hkind).symm, hsettleSecond]
    rfl

section NewVariant

variable {decl other : EnumDecl} {args : Arguments} {config : Configuration} {v : Variant}

lemma EnumDecl.Extends.name_not_mem_completed (h : decl.Extends [v] other)
    (hnames : (other.variants.map Variant.name).Nodup)
    (hnew : config.safeCase ∉ [v].map Variant.name) :
    v.name ∉ (decl.completed config).map Variant.name := by
  have hdistinct := completed_names_nodup config hnames
  rw [← entries_names, ((h.entries_perm config hnew).map Prod.fst).nodup_iff] at hdistinct
  rw [← entries_names]
  exact (List.nodup_cons.mp hdistinct).1

/-- The text of a new variant was not recognized before. -/
lemma EnumDecl.Extends.fromRaw?_new (h : decl.Extends [v] other)
    (hdecl : decl.Expands args config)
    (hother : other.Expands args config) (hkind : config.kind = .text)
    (hnew : config.safeCase ∉ [v].map Variant.name) (number : String → Int64) :
    (decl.lookup config).fromRaw? number (.text v.textValue) = none ∧
      (other.lookup config).fromRaw? number (.text v.textValue) = some v.name := by
  have hentries := h.entries_perm config hnew
  constructor
  · -- The new text is one of the texts of the second enum, which the check found to be distinct.
    have htexts := hother.completed_texts_nodup hkind
    rw [← entries_texts, (hentries.map Prod.snd).nodup_iff] at htexts
    rw [Option.eq_none_iff_forall_ne_some]
    intro name hname
    rw [hdecl.fromRaw?_eq_some_iff_entry hkind] at hname
    exact (List.nodup_cons.mp htexts).1 (List.mem_map.mpr ⟨_, hname, rfl⟩)
  · rw [hother.fromRaw?_eq_some_iff_entry hkind, hentries.mem_iff]
    exact List.mem_cons_self

end NewVariant

/-- A new variant of a text enum, wherever it is put, takes its own text from the fallback and
changes nothing else. All variants that there were keep their texts, and all other texts find
what they found. So decoding differs on the new text only: it gives the fallback before and the
variant afterwards. -/
theorem new_variant_conservative (number : String → Int64) (modulePath : String)
    (valuation : List Token → Int) {decl other : EnumDecl} {args : Arguments} {v : Variant}
    (hkind : decl.rawKind? = some .text) (h : decl.Extends [v] other)
    (hnames : (other.variants.map Variant.name).Nodup)
    (hnew : v.name ≠ args.safeCase.getD Configuration.defaultSafeCase)
    (hsuccess : ((Item.enum decl).expand args).isSuccess = true)
    (hsuccess' : ((Item.enum other).expand args).isSuccess = true) :
    ∃ (r r' : Rendering) (tables tables' : LookupTables) (e e' : RawEnum),
      decl.Renders args r tables ∧ other.Renders args r' tables' ∧
      RawEnum.ofExpansion? modulePath valuation decl ((Item.enum decl).expand args) = some e ∧
      RawEnum.ofExpansion? modulePath valuation other ((Item.enum other).expand args) = some e' ∧
      (∀ w ∈ r.decl.variants, ∃ s, tables.rawValue? number w.name = some (.text s) ∧
        tables'.rawValue? number w.name = some (.text s)) ∧
      (∀ s, s ≠ v.textValue →
        tables'.fromRaw? number (.text s) = tables.fromRaw? number (.text s)) ∧
      tables.fromRaw? number (.text v.textValue) = none ∧
      tables'.fromRaw? number (.text v.textValue) = some v.name ∧
      e.DiffersOnlyAt v.textValue v.name e' := by
  obtain ⟨config, htext, hdecl, hother⟩ := h.exists_expands hkind hsuccess hsuccess'
  have hundeclared : config.safeCase ∉ [v].map Variant.name := by
    rw [hdecl.safeCase_eq]
    simpa using hnew.symm
  have hsame : ∀ (number number' : String → Int64) (s : String), s ≠ v.textValue →
      (other.lookup config).fromRaw? number' (.text s) =
        (decl.lookup config).fromRaw? number (.text s) := by
    intro number number' s hs
    apply h.fromRaw?_eq hdecl hother htext hundeclared
    simpa using hs
  have hfound := h.fromRaw?_new hdecl hother htext hundeclared
  refine ⟨_, _, _, _, _, _, hdecl.renders, hother.renders, RawEnum.ofExpansion?_eq hdecl,
    RawEnum.ofExpansion?_eq hother, ?_⟩
  simp only [RawLookup.tables_fromRaw?, RawLookup.tables_rawValue?]
  refine ⟨?_, hsame number number, (hfound number).1, (hfound number).2, ?_⟩
  · intro w hw
    have hname : w.name ∈ (decl.completed config).map Variant.name := by
      rw [← EnumDecl.applied_generate_names]
      exact List.mem_map_of_mem hw
    obtain ⟨u, hu, huw⟩ := List.mem_map.mp hname
    have hvalue : (decl.lookup config).rawValue? number w.name = some (.text u.textValue) := by
      rw [hdecl.rawValue?_text_eq_some_iff htext (h.nodup_names hnames)]
      exact ⟨u, hu, huw, rfl⟩
    have hold : w.name ∉ [v].map Variant.name := by
      rw [List.map_singleton, List.mem_singleton]
      intro hvw
      exact h.name_not_mem_completed hnames hundeclared (hvw ▸ hname)
    refine ⟨u.textValue, hvalue, ?_⟩
    rw [h.rawValue?_eq hdecl hother htext hundeclared number hnames hold, hvalue]
  · exact RawEnum.differsOnlyAt_of_fromRaw? htext rfl (hsame _ _) (hfound _).1 (hfound _).2

/-- The operation types with a further one between them, whose name is a keyword. -/
def operationTypeExtended : EnumDecl :=
  { Catalog.operationType.decl with
    variants := [Catalog.credit, Catalog.bare "r#move",
      Catalog.debit] }

/-- The plain name of the new operation type is decoded to the fallback before and to it
afterwards. -/
theorem operationType_new_variant_conservative :
    Catalog.operationType.decl.rawKind? = some .text ∧
      Catalog.operationType.decl.Extends [Catalog.bare "r#move"] operationTypeExtended ∧
      (operationTypeExtended.variants.map Variant.name).Nodup ∧
      ((Item.enum Catalog.operationType.decl).expand {}).isSuccess = true ∧
      ((Item.enum operationTypeExtended).expand {}).isSuccess = true ∧
      ∃ e e',
        RawEnum.ofExpansion? "catalog" Catalog.valuation Catalog.operationType.decl
          ((Item.enum Catalog.operationType.decl).expand {}) = some e ∧
        RawEnum.ofExpansion? "catalog" Catalog.valuation operationTypeExtended
          ((Item.enum operationTypeExtended).expand {}) = some e' ∧
        (e.run .one "\"move\"").1 = .ok "Unknown" ∧
        (e'.run .one "\"move\"").1 = .ok "r#move" := by
  have hkind : Catalog.operationType.decl.rawKind? = some .text := by decide +kernel
  have hextends : Catalog.operationType.decl.Extends [Catalog.bare "r#move"]
      operationTypeExtended :=
    EnumDecl.extends_insert [Catalog.credit] [Catalog.debit] _ rfl
  have hnames : (operationTypeExtended.variants.map Variant.name).Nodup := by decide
  have hsuccess : ((Item.enum Catalog.operationType.decl).expand {}).isSuccess = true := by
    decide +kernel
  have hsuccess' : ((Item.enum operationTypeExtended).expand {}).isSuccess = true := by
    decide +kernel
  obtain ⟨-, -, -, -, e, e', -, -, he, he', -, -, -, -, hdiffers⟩ :=
    new_variant_conservative (fun _ => 0) "catalog" Catalog.valuation hkind hextends hnames
      (by decide) hsuccess hsuccess'
  have htext : (Catalog.bare "r#move").textValue = "move" := by decide
  rw [htext] at hdiffers
  have hsafeCase : e.safeCase = "Unknown" := by
    have hfallback : (RawEnum.ofExpansion? "catalog" Catalog.valuation Catalog.operationType.decl
        ((Item.enum Catalog.operationType.decl).expand {})).map RawEnum.safeCase =
          some "Unknown" := by
      decide +kernel
    rw [he] at hfallback
    exact Option.some.inj hfallback
  have hraw : Json.IsRaw "\"move\"".toList (.text "move") := by
    have hread : Json.readRaw .text "\"move\"".toList = .ok (.text "move", []) := rfl
    exact (Json.isRaw_iff_readRaw.mpr ⟨[], hread, nofun⟩).2
  refine ⟨hkind, hextends, hnames, hsuccess, hsuccess', e, e', he, he', ?_, ?_⟩
  · rw [hdiffers.run_first .one _ hraw, hsafeCase]
  · rw [hdiffers.run_second .one _ hraw]
    rfl

end FallbackEnum
