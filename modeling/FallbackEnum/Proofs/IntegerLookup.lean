import FallbackEnum.Proofs.CompiledEnum
import FallbackEnum.Proofs.Reexpansion

/-!
# Numbers of variants

The numbers of an integer enum are those of its declaration. A variant without a discriminant has
a number that depends on all variants before it, so it matters that a fallback is added at the
end: the variants before it keep their numbers. The fallback itself has a literal, and with it
the number of the configuration. If the compiler finds the numbers of the rendered enum to be
distinct integers of 64 bits, variants and numbers determine each other.
-/

namespace FallbackEnum

/-! ### Valuations -/

/-- The valuation gives every integer literal, negated or not, the integer that it denotes. -/
def ReadsLiterals (valuation : List Token → Int) : Prop :=
  ∀ expr n, integerLiteral? expr = some n → valuation expr = n

lemma Catalog.readsLiterals_valuation : ReadsLiterals valuation := by
  intro expr n h
  rw [valuation, h, Option.getD_some]

/-! ### Numberings -/

namespace Variant

variable (valuation : List Token → Int) (next : Int) (vs : List Variant)

lemma numberFrom_map_plain :
    numberFrom valuation next (vs.map plain) = numberFrom valuation next vs := by
  induction vs generalizing next with
  | nil => rfl
  | cons v vs ih =>
    have hnumber : v.plain.number valuation next = v.number valuation next := rfl
    rw [List.map_cons, numberFrom, numberFrom, hnumber, ih]
    rfl

/-- A variant with a discriminant at the end changes no number before it, and its own number does
not depend on what is before it. -/
lemma numberFrom_concat {w : Variant} {expr : List Token} (hw : w.discriminant = some expr) :
    numberFrom valuation next (vs ++ [w]) =
      numberFrom valuation next vs ++ [(w.name, valuation expr)] := by
  induction vs generalizing next with
  | nil => simp [numberFrom, number, hw]
  | cons v vs ih => rw [List.cons_append, numberFrom, ih, numberFrom, List.cons_append]

end Variant

namespace EnumDecl

variable {decl other : EnumDecl} {args : Arguments} {config : Configuration}
  {valuation : List Token → Int}

lemma SameShape.numbering (h : decl.SameShape other) (valuation : List Token → Int) :
    other.numbering valuation = decl.numbering valuation := by
  rw [EnumDecl.numbering, ← Variant.numberFrom_map_plain, h.variants,
    Variant.numberFrom_map_plain, EnumDecl.numbering]

lemma Expands.fallback_integer (h : decl.Expands args config) (hkind : config.kind = .integer) :
    ∃ n, config.fallback = .integer n :=
  RawValue.exists_integer (h.fallback_kind.trans hkind)

/-- Rendering an integer enum keeps its numbering, and gives an added fallback the number of the
configuration. -/
lemma numbering_applied (decl : EnumDecl) (hkind : config.kind = .integer)
    (hliterals : ReadsLiterals valuation) {n : Int64} (hn : config.fallback = .integer n) :
    (decl.applied (decl.generate config)).numbering valuation =
      decl.numbering valuation ++
        (decl.missingFallback? config).toList.map fun v => (v.name, n.toInt) := by
  rw [(decl.sameShape_applied_integer hkind).numbering, numbering, extendedBy_variants,
    numbering]
  cases hdeclared : decl.hasVariant config.safeCase with
  | true => simp [missingFallback?, hdeclared]
  | false =>
    have hvalue : valuation (RawValue.integer n).tokens = n.toInt :=
      hliterals _ _ (integerLiteral?_tokens_integer n)
    have hexpr : config.fallbackVariant.discriminant = some (RawValue.integer n).tokens := by
      rw [Configuration.fallbackVariant, hn]
    simp [missingFallback?, hdeclared, Variant.numberFrom_concat _ _ _ hexpr, hvalue]

/-- A variant has a number of its own. -/
lemma exists_lookup_numbering (valuation : List Token → Int) {name : String}
    (hmem : name ∈ decl.variants.map Variant.name)
    (hnames : (decl.variants.map Variant.name).Nodup) :
    ∃ n, (name, n) ∈ decl.numbering valuation ∧
      (decl.numbering valuation).lookup name = some n := by
  rw [← numbering_names valuation] at hmem hnames
  obtain ⟨⟨_, n⟩, hentry, rfl⟩ := List.mem_map.mp hmem
  exact ⟨n, hentry, lookup_eq_some_of_mem hnames hentry⟩

/-! ### The lookup -/

/-- With distinct numbers, a number finds a variant exactly if the variant gives that number. -/
lemma fromRaw?_integer_iff_rawValue? (hkind : config.kind = .integer) {number : String → Int64}
    (hnumbers : (((decl.completed config).map Variant.name).map number).Nodup) (name : String)
    (n : Int64) :
    (decl.lookup config).fromRaw? number (.integer n) = some name ↔
      (decl.lookup config).rawValue? number name = some (.integer n) := by
  rw [fromRaw?_integer_eq_some_iff hkind hnumbers, rawValue?_integer_eq_some_iff hkind,
    RawValue.integer.injEq, eq_comm (a := n)]

end EnumDecl

/-- An expanded integer enum numbers its variants as they were declared, and an added fallback as
the configuration says. If the numbers are distinct and have 64 bits, each variant gives its
number in the code of the lookup, and a number finds a variant exactly if the variant gives that
number. -/
theorem integer_numbering_kept {valuation : List Token → Int}
    (hliterals : ReadsLiterals valuation)
    {decl : EnumDecl} {args : Arguments} (hnames : (decl.variants.map Variant.name).Nodup)
    (hsuccess : ((Item.enum decl).expand args).isSuccess = true)
    (hkind : ((Item.enum decl).expand args).kind = some .integer) :
    ∃ (r : Rendering) (tables : LookupTables) (config : Configuration),
      (Item.enum decl).render ((Item.enum decl).expand args) = r.declarations ∧
      LookupTables.read? r.lookup.tokens = some tables ∧
      Configuration.resolve .integer args decl.span = .ok config ∧
      (∀ v ∈ decl.variants, ∃ n,
        (decl.numbering valuation).lookup v.name = some n ∧
          (r.decl.numbering valuation).lookup v.name = some n) ∧
      (∀ v, ((Item.enum decl).expand args).fallbackVariant? = some v → ∃ n,
        v.name = config.safeCase ∧ config.fallback = .integer n ∧
          (r.decl.numbering valuation).lookup v.name = some n.toInt) ∧
      (((r.decl.numbering valuation).map Prod.snd).Nodup →
        (∀ entry ∈ r.decl.numbering valuation,
          Int64.minValue.toInt ≤ entry.2 ∧ entry.2 ≤ Int64.maxValue.toInt) →
        ∀ v ∈ r.decl.variants,
          (∃ n : Int64, (r.decl.numbering valuation).lookup v.name = some n.toInt ∧
            tables.rawValue? (numberIn (r.decl.numbering valuation)) v.name =
              some (.integer n)) ∧
          ∀ n, tables.fromRaw? (numberIn (r.decl.numbering valuation)) (.integer n) =
              some v.name ↔
            tables.rawValue? (numberIn (r.decl.numbering valuation)) v.name =
              some (.integer n)) := by
  obtain ⟨_, config, hitem, h⟩ := Item.expand_isSuccess_iff.mp hsuccess
  cases hitem
  rw [h.expand_eq, EnumDecl.generate_kind, Option.some.injEq] at hkind
  obtain ⟨n, hn⟩ := h.fallback_integer hkind
  have hnumbering := EnumDecl.numbering_applied decl hkind hliterals hn
  have hcompleted := EnumDecl.completed_names_nodup config hnames
  rw [← EnumDecl.applied_generate_names] at hcompleted
  have hkeys := hcompleted
  rw [← EnumDecl.numbering_names valuation] at hkeys
  refine ⟨decl.rendering config, (decl.lookup config).tables, config, h.render_eq,
    RawLookup.read?_tokens _, hkind ▸ h.resolved, ?_, ?_, ?_⟩
  · intro v hv
    obtain ⟨m, hentry, hlookup⟩ :=
      EnumDecl.exists_lookup_numbering valuation (List.mem_map_of_mem hv) hnames
    refine ⟨m, hlookup, lookup_eq_some_of_mem hkeys ?_⟩
    rw [hnumbering]
    exact List.mem_append_left _ hentry
  · intro v hv
    rw [h.expand_eq, EnumDecl.generate_fallbackVariant?] at hv
    have hname : v.name = config.safeCase := by
      rw [(EnumDecl.missingFallback?_eq_some_iff.mp hv).2]
      rfl
    refine ⟨n, hname, hn, lookup_eq_some_of_mem hkeys ?_⟩
    rw [hnumbering]
    exact List.mem_append_right _ (List.mem_map_of_mem (Option.mem_toList.mpr hv))
  · intro hdistinct hrange v hv
    have hmem : v.name ∈ (decl.applied (decl.generate config)).variants.map Variant.name :=
      List.mem_map_of_mem hv
    obtain ⟨m, hentry, hlookup⟩ :=
      EnumDecl.exists_lookup_numbering valuation hmem hcompleted
    have hnumber := toInt_numberIn_of_mem hkeys hentry (hrange _ hentry)
    have hvalues := numberIn_nodup hkeys hdistinct hrange
    rw [EnumDecl.numbering_names, EnumDecl.applied_generate_names] at hvalues
    rw [EnumDecl.applied_generate_names] at hmem
    simp only [RawLookup.tables_fromRaw?, RawLookup.tables_rawValue?]
    refine ⟨⟨_, hlookup.trans (congrArg some hnumber.symm), ?_⟩,
      EnumDecl.fromRaw?_integer_iff_rawValue? hkind hvalues v.name⟩
    exact (EnumDecl.rawValue?_integer_eq_some_iff hkind).mpr ⟨hmem, rfl⟩

/-- The least number stands for the fallback. It comes behind a number that is not given, and the
lookup finds both. -/
theorem minFallback_numbering_kept :
    ReadsLiterals Catalog.valuation ∧
      (Catalog.minFallback.decl.variants.map Variant.name).Nodup ∧
      ((Item.enum Catalog.minFallback.decl).expand Catalog.minFallback.args).isSuccess = true ∧
      ((Item.enum Catalog.minFallback.decl).expand Catalog.minFallback.args).kind =
        some .integer ∧
      ∃ (r : Rendering) (tables : LookupTables),
        (Item.enum Catalog.minFallback.decl).render
          ((Item.enum Catalog.minFallback.decl).expand Catalog.minFallback.args) =
            r.declarations ∧
        LookupTables.read? r.lookup.tokens = some tables ∧
        ((r.decl.numbering Catalog.valuation).map Prod.snd).Nodup ∧
        tables.fromRaw? (numberIn (r.decl.numbering Catalog.valuation))
          (.integer 9007199254740994) = some "Bigger" ∧
        tables.fromRaw? (numberIn (r.decl.numbering Catalog.valuation))
          (.integer Int64.minValue) = some "Unknown" := by
  have hnames : (Catalog.minFallback.decl.variants.map Variant.name).Nodup := by decide
  have hsuccess : ((Item.enum Catalog.minFallback.decl).expand
      Catalog.minFallback.args).isSuccess = true := by
    decide +kernel
  have hkind : ((Item.enum Catalog.minFallback.decl).expand Catalog.minFallback.args).kind =
      some .integer := by
    decide +kernel
  obtain ⟨r, tables, -, hrender, htables, -, -, -, hexact⟩ :=
    integer_numbering_kept Catalog.readsLiterals_valuation hnames hsuccess hkind
  have hdecl : r.decl = Catalog.minFallback.decl.applied
      ((Item.enum Catalog.minFallback.decl).expand Catalog.minFallback.args) := by
    have hhead := Item.head?_render (.enum Catalog.minFallback.decl) Catalog.minFallback.args
    rw [hrender] at hhead
    simpa [Rendering.declarations, Item.expanded, hsuccess] using hhead
  have hvariants : r.decl.variants.map Variant.name = ["Big", "Bigger", "Unknown"] := by
    rw [hdecl]
    decide +kernel
  have hnumbers : r.decl.numbering Catalog.valuation =
      [("Big", 9007199254740993), ("Bigger", 9007199254740994),
        ("Unknown", -9223372036854775808)] := by
    rw [hdecl]
    decide +kernel
  have hdistinct : ((r.decl.numbering Catalog.valuation).map Prod.snd).Nodup := by
    rw [hnumbers]
    decide
  have hfound : ∀ name ∈ r.decl.variants.map Variant.name,
      ∀ n : Int64, (r.decl.numbering Catalog.valuation).lookup name = some n.toInt →
        tables.fromRaw? (numberIn (r.decl.numbering Catalog.valuation)) (.integer n) =
          some name := by
    intro name hname n hn
    obtain ⟨v, hv, rfl⟩ := List.mem_map.mp hname
    obtain ⟨⟨m, hm, hgives⟩, hfinds⟩ := hexact hdistinct (by rw [hnumbers]; decide) v hv
    have hsame : m = n := Int64.toInt_inj.mp (Option.some.inj (hm.symm.trans hn))
    exact (hfinds n).mpr (hsame ▸ hgives)
  refine ⟨Catalog.readsLiterals_valuation, hnames, hsuccess, hkind, r, tables, hrender, htables,
    hdistinct, hfound "Bigger" ?_ _ ?_, hfound "Unknown" ?_ _ ?_⟩
  · rw [hvariants]
    decide
  · rw [hnumbers]
    decide
  · rw [hvariants]
    decide
  · rw [hnumbers]
    decide

end FallbackEnum
