import FallbackEnum.Catalog
import FallbackEnum.Proofs.Expansion
import FallbackEnum.Proofs.LookupCode

/-!
# Texts of variants

In an expanded text enum, variants and texts determine each other. The names of the variants are
distinct in the declaration, validation makes their texts distinct, and a fallback is only added
under a new name and with a new text. So the first arm with a text is the only one, and so is the
first arm of a variant.
-/

namespace FallbackEnum

/-! ### Entries with distinct keys -/

/-- With distinct keys, what is found under a key is the one entry that has it. -/
lemma find?_key_eq_some_iff {α κ : Type} [DecidableEq κ] {key : α → κ} {entries : List α}
    (hkeys : (entries.map key).Nodup) {k : κ} {x : α} :
    entries.find? (fun y => key y = k) = some x ↔ x ∈ entries ∧ key x = k := by
  refine ⟨fun h => ⟨List.mem_of_find?_eq_some h, by simpa using List.find?_some h⟩, ?_⟩
  rintro ⟨hx, rfl⟩
  have hfound : (entries.find? fun y => decide (key y = key x)).isSome = true := by
    rw [List.find?_isSome]
    exact ⟨x, hx, by simp⟩
  obtain ⟨y, hy⟩ := Option.isSome_iff_exists.mp hfound
  have hkey : key y = key x := by simpa using List.find?_some hy
  have hsame : y = x := List.inj_on_of_nodup_map hkeys (List.mem_of_find?_eq_some hy) hx hkey
  rw [hy, hsame]

namespace RawLookup

variable {arms : List (String × String)} {variant value : String}

lemma ofText?_eq_some_iff (htexts : (arms.map Prod.snd).Nodup) :
    ofText? arms value = some variant ↔ (variant, value) ∈ arms := by
  simp only [ofText?, Option.map_eq_some_iff, find?_key_eq_some_iff htexts]
  constructor
  · rintro ⟨arm, ⟨harm, rfl⟩, rfl⟩
    exact harm
  · intro h
    exact ⟨(variant, value), ⟨h, rfl⟩, rfl⟩

lemma textOf?_eq_some_iff (hnames : (arms.map Prod.fst).Nodup) :
    textOf? arms variant = some value ↔ (variant, value) ∈ arms := by
  simp only [textOf?, Option.map_eq_some_iff, find?_key_eq_some_iff hnames]
  constructor
  · rintro ⟨arm, ⟨harm, rfl⟩, rfl⟩
    exact harm
  · intro h
    exact ⟨(variant, value), ⟨h, rfl⟩, rfl⟩

end RawLookup

/-! ### Lookups of text enums -/

namespace EnumDecl.Expands

variable {decl : EnumDecl} {args : Arguments} {config : Configuration}

/-- A text finds the variant that has it. -/
lemma fromRaw?_text_eq_some_iff (h : decl.Expands args config) (hkind : config.kind = .text)
    (number : String → Int64) {name text : String} :
    (decl.lookup config).fromRaw? number (.text text) = some name ↔
      ∃ v ∈ decl.completed config, v.name = name ∧ v.textValue = text := by
  have htexts : (((decl.completed config).map fun v => (v.name, v.textValue)).map
      Prod.snd).Nodup := by
    rw [List.map_map]
    exact h.completed_texts_nodup hkind
  rw [h.lookup_text hkind, RawLookup.fromRaw?, RawLookup.ofText?_eq_some_iff htexts]
  simp

lemma rawValue?_text_eq_some_iff (h : decl.Expands args config) (hkind : config.kind = .text)
    (hnames : (decl.variants.map Variant.name).Nodup) (number : String → Int64)
    {name : String} {value : RawValue} :
    (decl.lookup config).rawValue? number name = some value ↔
      ∃ v ∈ decl.completed config, v.name = name ∧ value = .text v.textValue := by
  have hkeys : (((decl.completed config).map fun v => (v.name, v.textValue)).map
      Prod.fst).Nodup := by
    rw [List.map_map]
    exact completed_names_nodup config hnames
  rw [h.lookup_text hkind, RawLookup.rawValue?, Option.map_eq_some_iff]
  simp only [RawLookup.textOf?_eq_some_iff hkeys, List.mem_map, Prod.mk.injEq]
  constructor
  · rintro ⟨_, ⟨v, hv, hname, rfl⟩, rfl⟩
    exact ⟨v, hv, hname, rfl⟩
  · rintro ⟨v, hv, hname, rfl⟩
    exact ⟨_, ⟨v, hv, hname, rfl⟩, rfl⟩

/-- Both functions of the lookup relate the names and the texts of the same variants. -/
lemma fromRaw?_text_iff_rawValue? (h : decl.Expands args config) (hkind : config.kind = .text)
    (hnames : (decl.variants.map Variant.name).Nodup) (number : String → Int64)
    (name text : String) :
    (decl.lookup config).fromRaw? number (.text text) = some name ↔
      (decl.lookup config).rawValue? number name = some (.text text) := by
  rw [h.fromRaw?_text_eq_some_iff hkind, h.rawValue?_text_eq_some_iff hkind hnames]
  simp [eq_comm]

/-- An added fallback has the name and the text of the configuration. -/
lemma missingFallback?_text (h : decl.Expands args config) (hkind : config.kind = .text)
    {v : Variant} (hv : decl.missingFallback? config = some v) :
    v.name = config.safeCase ∧ config.fallback = .text v.textValue := by
  rw [missingFallback?] at hv
  split_ifs at hv
  cases hv
  obtain ⟨literal, hliteral⟩ := h.fallback_text hkind
  rw [Configuration.fallbackVariant_textValue hliteral, Configuration.fallbackVariant]
  exact ⟨rfl, hliteral⟩

/-- A declared variant of a text enum has the text of its literal or, without one, its own
name. -/
lemma textValue_of_discriminant (h : decl.Expands args config) (hkind : config.kind = .text)
    {v : Variant} (hv : v ∈ decl.variants) :
    match v.discriminant with
    | some expr => textLiteral? expr = some v.textValue
    | none => v.textValue = Keyword.unraw v.name := by
  have hfits := (validate_eq_ok_iff.mp h.valid).1 v hv
  rw [hkind, Variant.fits, Bool.and_eq_true] at hfits
  cases hexpr : v.discriminant with
  | none => simp [Variant.textValue, Variant.textLiteral?, hexpr]
  | some expr =>
    have hliteral : (textLiteral? expr).isSome = true := by
      simpa [Variant.discriminantFits, Variant.textLiteral?, hexpr] using hfits.2
    obtain ⟨text, htext⟩ := Option.isSome_iff_exists.mp hliteral
    simp [Variant.textValue, Variant.textLiteral?, hexpr, htext]

end EnumDecl.Expands

/-- Variants and texts of an expanded text enum determine each other, in the code of its lookup:
a text finds a variant exactly if the variant gives that text, and finds nothing exactly if no
variant gives it. Every variant gives a text: that of its literal, its plain name without one,
and that of the configuration for an added fallback. -/
theorem text_tables_exact (number : String → Int64) {decl : EnumDecl} {args : Arguments}
    (hnames : (decl.variants.map Variant.name).Nodup)
    (hsuccess : ((Item.enum decl).expand args).isSuccess = true)
    (hkind : ((Item.enum decl).expand args).kind = some .text) :
    ∃ (r : Rendering) (tables : LookupTables) (config : Configuration),
      (Item.enum decl).render ((Item.enum decl).expand args) = r.declarations ∧
      LookupTables.read? r.lookup.tokens = some tables ∧
      Configuration.resolve .text args decl.span = .ok config ∧
      (∀ s, ∀ v ∈ r.decl.variants,
        tables.fromRaw? number (.text s) = some v.name ↔
          tables.rawValue? number v.name = some (.text s)) ∧
      (∀ v ∈ r.decl.variants, ∃ s,
        tables.rawValue? number v.name = some (.text s) ∧
          tables.fromRaw? number (.text s) = some v.name) ∧
      (∀ s, tables.fromRaw? number (.text s) = none ↔
        ∀ v ∈ r.decl.variants, tables.rawValue? number v.name ≠ some (.text s)) ∧
      (∀ v ∈ decl.variants,
        match v.discriminant with
        | some expr => ∃ s, textLiteral? expr = some s ∧
            tables.rawValue? number v.name = some (.text s)
        | none => tables.rawValue? number v.name = some (.text (Keyword.unraw v.name))) ∧
      (∀ v, ((Item.enum decl).expand args).fallbackVariant? = some v →
        v.name = config.safeCase ∧ tables.rawValue? number v.name = some config.fallback) := by
  obtain ⟨_, config, hitem, h⟩ := Item.expand_isSuccess_iff.mp hsuccess
  cases hitem
  rw [h.expand_eq, EnumDecl.generate_kind, Option.some.injEq] at hkind
  have hagree := h.fromRaw?_text_iff_rawValue? hkind hnames number
  have hgives : ∀ v ∈ decl.completed config,
      (decl.lookup config).rawValue? number v.name = some (.text v.textValue) := by
    intro v hv
    rw [h.rawValue?_text_eq_some_iff hkind hnames]
    exact ⟨v, hv, rfl, rfl⟩
  have hrendered : ∀ name, name ∈ (decl.rendering config).decl.variants.map Variant.name ↔
      name ∈ (decl.completed config).map Variant.name := by
    intro name
    rw [EnumDecl.rendering, EnumDecl.applied_generate_names]
  refine ⟨decl.rendering config, (decl.lookup config).tables, config, h.render_eq,
    RawLookup.read?_tokens _, hkind ▸ h.resolved, ?_⟩
  simp only [RawLookup.tables_fromRaw?, RawLookup.tables_rawValue?]
  refine ⟨fun s v _ => hagree v.name s, ?_, ?_, ?_, ?_⟩
  · intro v hv
    obtain ⟨w, hw, hname⟩ := List.mem_map.mp ((hrendered v.name).mp (List.mem_map_of_mem hv))
    rw [← hname]
    exact ⟨w.textValue, hgives w hw, (hagree _ _).mpr (hgives w hw)⟩
  · intro s
    constructor
    · intro hnone v _ hv
      rw [← hagree, hnone] at hv
      cases hv
    · intro hall
      by_contra hsome
      obtain ⟨name, hname⟩ := Option.ne_none_iff_exists'.mp hsome
      obtain ⟨w, hw, rfl, -⟩ := (h.fromRaw?_text_eq_some_iff hkind number).mp hname
      obtain ⟨v, hv, heq⟩ := List.mem_map.mp ((hrendered w.name).mpr (List.mem_map_of_mem hw))
      exact hall v hv (heq ▸ (hagree w.name s).mp hname)
  · intro v hv
    have htext := h.textValue_of_discriminant hkind hv
    have hvalue := hgives v (List.mem_append_left _ hv)
    cases hexpr : v.discriminant with
    | none =>
      rw [hexpr] at htext
      rwa [htext] at hvalue
    | some expr =>
      rw [hexpr] at htext
      exact ⟨v.textValue, htext, hvalue⟩
  · intro v hv
    rw [h.expand_eq, EnumDecl.generate_fallbackVariant?] at hv
    obtain ⟨hname, hfallback⟩ := h.missingFallback?_text hkind hv
    have hmem : v ∈ decl.completed config :=
      List.mem_append_right _ (Option.mem_toList.mpr hv)
    exact ⟨hname, hfallback ▸ hgives v hmem⟩

/-- A raw identifier without a literal has its plain name as text. -/
theorem keywords_tables_exact :
    (Catalog.keywords.decl.variants.map Variant.name).Nodup ∧
      ((Item.enum Catalog.keywords.decl).expand Catalog.keywords.args).isSuccess = true ∧
      ((Item.enum Catalog.keywords.decl).expand Catalog.keywords.args).kind = some .text ∧
      ∃ (r : Rendering) (tables : LookupTables),
        (Item.enum Catalog.keywords.decl).render
          ((Item.enum Catalog.keywords.decl).expand Catalog.keywords.args) = r.declarations ∧
        LookupTables.read? r.lookup.tokens = some tables ∧
        tables.rawValue? (fun _ => 0) "r#fn" = some (.text "fn") := by
  have hnames : (Catalog.keywords.decl.variants.map Variant.name).Nodup := by decide
  have hsuccess :
      ((Item.enum Catalog.keywords.decl).expand Catalog.keywords.args).isSuccess = true := by
    decide +kernel
  have hkind :
      ((Item.enum Catalog.keywords.decl).expand Catalog.keywords.args).kind = some .text := by
    decide +kernel
  obtain ⟨r, tables, _, hrender, htables, -, -, -, -, hvalues, -⟩ :=
    text_tables_exact (fun _ => 0) hnames hsuccess hkind
  have hplain : Keyword.unraw "r#fn" = "fn" := by decide
  have hfn := hvalues (Catalog.bare "r#fn") List.mem_cons_self
  exact ⟨hnames, hsuccess, hkind, r, tables, hrender, htables, hplain ▸ hfn⟩

/-! ### A text given for the fallback -/

namespace EnumDecl.Expands

variable {decl : EnumDecl} {args : Arguments} {config : Configuration}

/-- A raw value that is given is that of the configuration. -/
lemma fallback_of_given (h : decl.Expands args config) {value : RawValue}
    (hgiven : args.rawValue = some value) : config.fallback = value := by
  have hresolved := h.resolved
  simp only [Configuration.resolve, hgiven] at hresolved
  split_ifs at hresolved
  rw [← Except.ok.inj hresolved]

/-- Each variant gives its own text, and its text finds it. -/
lemma lookup_of_mem_completed (h : decl.Expands args config) (hkind : config.kind = .text)
    (hnames : (decl.variants.map Variant.name).Nodup) (number : String → Int64) {v : Variant}
    (hv : v ∈ decl.completed config) :
    (decl.lookup config).rawValue? number v.name = some (.text v.textValue) ∧
      (decl.lookup config).fromRaw? number (.text v.textValue) = some v.name := by
  constructor
  · rw [h.rawValue?_text_eq_some_iff hkind hnames]
    exact ⟨v, hv, rfl, rfl⟩
  · rw [h.fromRaw?_text_eq_some_iff hkind]
    exact ⟨v, hv, rfl, rfl⟩

end EnumDecl.Expands

/-- A text that is given for the fallback is that of a fallback that is added: the fallback gives
the text and the text finds the fallback. A declared fallback keeps its own text, that of its
literal or its plain name, so what is given is in force only if it is that text. -/
theorem given_text_of_fallback (number : String → Int64) {decl : EnumDecl} {args : Arguments}
    {value : String} (hnames : (decl.variants.map Variant.name).Nodup)
    (hgiven : args.rawValue = some (.text value))
    (hsuccess : ((Item.enum decl).expand args).isSuccess = true) :
    ∃ (r : Rendering) (tables : LookupTables) (safeCase : String),
      (Item.enum decl).render ((Item.enum decl).expand args) = r.declarations ∧
      LookupTables.read? r.lookup.tokens = some tables ∧
      safeCase = args.safeCase.getD Configuration.defaultSafeCase ∧
      ((Item.enum decl).expand args).kind = some .text ∧
      (((Item.enum decl).expand args).fallbackVariant?.isSome = true →
        tables.rawValue? number safeCase = some (.text value) ∧
          tables.fromRaw? number (.text value) = some safeCase) ∧
      (((Item.enum decl).expand args).fallbackVariant? = none →
        ∃ v ∈ decl.variants, ∃ own, v.name = safeCase ∧
          (match v.discriminant with
            | some expr => textLiteral? expr = some own
            | none => own = Keyword.unraw v.name) ∧
          tables.rawValue? number safeCase = some (.text own) ∧
          tables.fromRaw? number (.text own) = some safeCase ∧
          (tables.rawValue? number safeCase = some (.text value) ↔ own = value) ∧
          (tables.fromRaw? number (.text value) = some safeCase ↔ own = value)) := by
  obtain ⟨_, config, hitem, h⟩ := Item.expand_isSuccess_iff.mp hsuccess
  cases hitem
  have hfallback := h.fallback_of_given hgiven
  have hkind : config.kind = .text := by rw [← h.fallback_kind, hfallback, RawValue.kind_text]
  refine ⟨decl.rendering config, (decl.lookup config).tables, config.safeCase, h.render_eq,
    RawLookup.read?_tokens _, h.safeCase_eq,
    by rw [h.expand_eq, EnumDecl.generate_kind, hkind], ?_⟩
  simp only [RawLookup.tables_fromRaw?, RawLookup.tables_rawValue?, h.expand_eq,
    EnumDecl.generate_fallbackVariant?]
  constructor
  · intro hadded
    obtain ⟨v, hv⟩ := Option.isSome_iff_exists.mp hadded
    obtain ⟨hname, htext⟩ := h.missingFallback?_text hkind hv
    have hmem : v ∈ decl.completed config := List.mem_append_right _ (Option.mem_toList.mpr hv)
    have hvalue : v.textValue = value := RawValue.text.inj (htext.symm.trans hfallback)
    rw [← hname, ← hvalue]
    exact h.lookup_of_mem_completed hkind hnames number hmem
  · intro hdeclared
    have hmem := decl.safeCase_mem_completed config
    rw [EnumDecl.completed, hdeclared, Option.toList_none, List.append_nil] at hmem
    obtain ⟨v, hv, hname⟩ := List.mem_map.mp hmem
    obtain ⟨hgives, hfinds⟩ :=
      h.lookup_of_mem_completed hkind hnames number (List.mem_append_left _ hv)
    rw [hname] at hgives hfinds
    refine ⟨v, hv, v.textValue, hname, h.textValue_of_discriminant hkind hv, hgives, hfinds,
      ?_, ?_⟩
    · rw [hgives, Option.some.injEq, RawValue.text.injEq]
    · rw [h.fromRaw?_text_iff_rawValue? hkind hnames, hgives, Option.some.injEq,
        RawValue.text.injEq]

/-- A fallback that is added has the text that is given, not its name in upper case. -/
theorem availability_given_text :
    (Catalog.availability.decl.variants.map Variant.name).Nodup ∧
      Catalog.availability.args.rawValue = some (.text "n/a") ∧
      ((Item.enum Catalog.availability.decl).expand Catalog.availability.args).isSuccess = true ∧
      ∃ (r : Rendering) (tables : LookupTables),
        (Item.enum Catalog.availability.decl).render
          ((Item.enum Catalog.availability.decl).expand Catalog.availability.args) =
            r.declarations ∧
        LookupTables.read? r.lookup.tokens = some tables ∧
        tables.rawValue? (fun _ => 0) "None" = some (.text "n/a") ∧
        tables.fromRaw? (fun _ => 0) (.text "n/a") = some "None" := by
  have hnames : (Catalog.availability.decl.variants.map Variant.name).Nodup := by decide
  have hsuccess : ((Item.enum Catalog.availability.decl).expand
      Catalog.availability.args).isSuccess = true := by
    decide +kernel
  have hadded : ((Item.enum Catalog.availability.decl).expand
      Catalog.availability.args).fallbackVariant?.isSome = true := by
    decide +kernel
  obtain ⟨r, tables, _, hrender, htables, rfl, -, hgiven, -⟩ :=
    given_text_of_fallback (fun _ => 0) hnames rfl hsuccess
  exact ⟨hnames, rfl, hsuccess, r, tables, hrender, htables, hgiven hadded⟩

/-- A declared fallback keeps its own text, and the text that is given finds another variant. -/
theorem reused_given_text_ignored :
    (Catalog.reused.decl.variants.map Variant.name).Nodup ∧
      Catalog.reused.args =
        { rawValue := some (.text "ignored"), fallbackName := some Catalog.otherName } ∧
      ((Item.enum Catalog.reused.decl).expand Catalog.reused.args).isSuccess = true ∧
      ((Item.enum Catalog.reused.decl).expand Catalog.reused.args).kind = some .text ∧
      ∃ (r : Rendering) (tables : LookupTables),
        (Item.enum Catalog.reused.decl).render
          ((Item.enum Catalog.reused.decl).expand Catalog.reused.args) = r.declarations ∧
        LookupTables.read? r.lookup.tokens = some tables ∧
        tables.rawValue? (fun _ => 0) "Other" = some (.text "Other") ∧
        tables.rawValue? (fun _ => 0) "Other" ≠ some (.text "ignored") ∧
        tables.fromRaw? (fun _ => 0) (.text "ignored") = some "First" ∧
        tables.fromRaw? (fun _ => 0) (.text "ignored") ≠ some "Other" := by
  have hsuccess :
      ((Item.enum Catalog.reused.decl).expand Catalog.reused.args).isSuccess = true := by
    decide +kernel
  have hkind : ((Item.enum Catalog.reused.decl).expand Catalog.reused.args).kind =
      some .text := by
    decide +kernel
  obtain ⟨_, config, hitem, h⟩ := Item.expand_isSuccess_iff.mp hsuccess
  cases hitem
  have htext : config.kind = .text := by
    rwa [h.expand_eq, EnumDecl.generate_kind, Option.some.injEq] at hkind
  have hnames : (Catalog.reused.decl.variants.map Variant.name).Nodup := by decide
  have hplain : (Catalog.bare "Other").textValue = "Other" := by decide
  have hliteral : (Catalog.text "First" "ignored").textValue = "ignored" := by decide +kernel
  have hother : (Catalog.reused.decl.lookup config).rawValue? (fun _ => 0) "Other" =
      some (.text "Other") := by
    rw [← hplain]
    refine (h.lookup_of_mem_completed htext hnames _ (List.mem_append_left _ ?_)).1
    exact List.mem_cons_self
  have hfirst : (Catalog.reused.decl.lookup config).fromRaw? (fun _ => 0) (.text "ignored") =
      some "First" := by
    rw [← hliteral]
    refine (h.lookup_of_mem_completed htext hnames _ (List.mem_append_left _ ?_)).2
    exact List.mem_cons_of_mem _ List.mem_cons_self
  refine ⟨hnames, rfl, hsuccess, hkind, Catalog.reused.decl.rendering config, _, h.render_eq,
    RawLookup.read?_tokens _, ?_⟩
  simp only [EnumDecl.rendering, RawLookup.tables_rawValue?, RawLookup.tables_fromRaw?, hother,
    hfirst]
  decide

end FallbackEnum
