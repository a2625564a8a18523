import FallbackEnum.Proofs.TextLookup

/-!
# Compiled enums

An expanded enum runs only if the compiler accepts it. Then the names of its variants are
distinct, and so are their numbers, which have 64 bits if the enum is one of integers. Under
these conditions its lookup is exact for both kinds.
-/

namespace FallbackEnum

/-! ### Numbers of variants -/

lemma lookup_eq_some_of_mem {β : Type} {entries : List (String × β)}
    (hkeys : (entries.map Prod.fst).Nodup) {key : String} {value : β}
    (hmem : (key, value) ∈ entries) : entries.lookup key = some value := by
  obtain ⟨before, after, rfl⟩ := List.append_of_mem hmem
  rw [List.lookup_eq_some_iff]
  refine ⟨before, after, rfl, ?_⟩
  intro entry hentry
  rw [List.map_append, List.nodup_append] at hkeys
  have hne := hkeys.2.2 entry.1 (List.mem_map_of_mem hentry) key (by simp)
  simpa using hne.symm

/-- Integers in the range of 64 bits are told apart by their 64 bits. -/
lemma int64_ofInt_inj {m n : Int} (hm : Int64.minValue.toInt ≤ m ∧ m ≤ Int64.maxValue.toInt)
    (hn : Int64.minValue.toInt ≤ n ∧ n ≤ Int64.maxValue.toInt)
    (h : Int64.ofInt m = Int64.ofInt n) : m = n := by
  have hsame := congrArg Int64.toInt h
  rw [Int64.toInt_minValue, Int64.toInt_maxValue] at hm hn
  rwa [Int64.toInt_ofInt_of_le (by omega) (by omega),
    Int64.toInt_ofInt_of_le (by omega) (by omega)] at hsame

/-- The number of a variant in a numbering, as 64 bits. -/
def numberIn (numbers : List (String × Int)) (variant : String) : Int64 :=
  Int64.ofInt ((numbers.lookup variant).getD 0)

lemma numberIn_of_mem {numbers : List (String × Int)} (hnames : (numbers.map Prod.fst).Nodup)
    {entry : String × Int} (hmem : entry ∈ numbers) :
    numberIn numbers entry.1 = Int64.ofInt entry.2 := by
  rw [numberIn, lookup_eq_some_of_mem hnames hmem, Option.getD_some]

lemma toInt_numberIn_of_mem {numbers : List (String × Int)}
    (hnames : (numbers.map Prod.fst).Nodup) {entry : String × Int} (hmem : entry ∈ numbers)
    (hrange : Int64.minValue.toInt ≤ entry.2 ∧ entry.2 ≤ Int64.maxValue.toInt) :
    (numberIn numbers entry.1).toInt = entry.2 := by
  rw [Int64.toInt_minValue, Int64.toInt_maxValue] at hrange
  rw [numberIn_of_mem hnames hmem]
  exact Int64.toInt_ofInt_of_le (by omega) (by omega)

/-- Variants with distinct numbers of 64 bits have distinct raw values. -/
lemma numberIn_nodup {numbers : List (String × Int)} (hnames : (numbers.map Prod.fst).Nodup)
    (hnumbers : (numbers.map Prod.snd).Nodup)
    (hrange : ∀ entry ∈ numbers,
      Int64.minValue.toInt ≤ entry.2 ∧ entry.2 ≤ Int64.maxValue.toInt) :
    ((numbers.map Prod.fst).map (numberIn numbers)).Nodup := by
  have hvalues : (numbers.map Prod.fst).map (numberIn numbers) =
      numbers.map (fun entry => Int64.ofInt entry.2) := by
    rw [List.map_map]
    refine List.map_congr_left ?_
    intro entry hentry
    exact numberIn_of_mem hnames hentry
  rw [hvalues]
  refine List.Nodup.map_on ?_ hnumbers.of_map
  intro x hx y hy hxy
  exact List.inj_on_of_nodup_map hnumbers hx hy (int64_ofInt_inj (hrange x hx) (hrange y hy) hxy)

lemma Variant.numberFrom_names (valuation : List Token → Int) (next : Int) (vs : List Variant) :
    (numberFrom valuation next vs).map Prod.fst = vs.map Variant.name := by
  induction vs generalizing next with
  | nil => rfl
  | cons v vs ih => rw [numberFrom, List.map_cons, List.map_cons, ih]

lemma EnumDecl.numbering_names (valuation : List Token → Int) (decl : EnumDecl) :
    (decl.numbering valuation).map Prod.fst = decl.variants.map Variant.name :=
  Variant.numberFrom_names valuation 0 decl.variants

/-! ### Lookups of integer enums -/

namespace EnumDecl

variable {decl : EnumDecl} {args : Arguments} {config : Configuration}

lemma Expands.variantNames_lookup (h : decl.Expands args config) :
    (decl.lookup config).variantNames = (decl.completed config).map Variant.name := by
  cases hkind : config.kind with
  | text => simp [h.lookup_text hkind, RawLookup.variantNames]
  | integer => rw [lookup_integer hkind, RawLookup.variantNames]

/-- With distinct numbers, a number finds the variant that has it. -/
lemma fromRaw?_integer_eq_some_iff (hkind : config.kind = .integer) {number : String → Int64}
    (hnumbers : (((decl.completed config).map Variant.name).map number).Nodup) {name : String}
    {n : Int64} :
    (decl.lookup config).fromRaw? number (.integer n) = some name ↔
      name ∈ (decl.completed config).map Variant.name ∧ number name = n := by
  rw [lookup_integer hkind, RawLookup.fromRaw?, RawLookup.ofNumber?,
    find?_key_eq_some_iff hnumbers]

lemma rawValue?_integer_eq_some_iff (hkind : config.kind = .integer) {number : String → Int64}
    {name : String} {value : RawValue} :
    (decl.lookup config).rawValue? number name = some value ↔
      name ∈ (decl.completed config).map Variant.name ∧ value = .integer (number name) := by
  rw [lookup_integer hkind, RawLookup.rawValue?]
  split_ifs with hmem <;> simp [hmem, eq_comm]

end EnumDecl

/-! ### Compilation -/

namespace EnumDecl

/-- The compiler accepts an enum with its expansion: the expansion succeeds, the names of the
variants are distinct, and the numbers of an enum of integers are distinct and have 64 bits. -/
def Compiles (decl : EnumDecl) (args : Arguments) (valuation : List Token → Int) : Prop :=
  let expansion := (Item.enum decl).expand args
  let numbers := (decl.applied expansion).numbering valuation
  expansion.isSuccess = true ∧ (decl.variants.map Variant.name).Nodup ∧
    (expansion.kind = some .integer →
      (numbers.map Prod.snd).Nodup ∧ ∀ entry ∈ numbers,
        Int64.minValue.toInt ≤ entry.2 ∧ entry.2 ≤ Int64.maxValue.toInt)

instance (decl : EnumDecl) (args : Arguments) (valuation : List Token → Int) :
    Decidable (decl.Compiles args valuation) :=
  inferInstanceAs (Decidable (_ ∧ _ ∧ (_ → _ ∧ _)))

end EnumDecl

namespace RawEnum

/-- The enum comes from an expansion that the compiler accepts. -/
def IsCompiled (e : RawEnum) : Prop :=
  ∃ modulePath valuation decl args, EnumDecl.Compiles decl args valuation ∧
    ofExpansion? modulePath valuation decl ((Item.enum decl).expand args) = some e

variable {e : RawEnum}

/-- What an enum is made of, if it comes from a successful expansion. -/
lemma ofExpansion?_eq {modulePath : String} {valuation : List Token → Int} {decl : EnumDecl}
    {args : Arguments} {config : Configuration} (h : decl.Expands args config) :
    ofExpansion? modulePath valuation decl ((Item.enum decl).expand args) =
      some {
        path := modulePath ++ "::" ++ decl.name
        routine := DecodeRoutine.ofConfiguration config
        lookup := decl.lookup config
        numbers := (decl.applied (decl.generate config)).numbering valuation } := by
  rw [h.expand_eq, ofExpansion?, EnumDecl.generate_routines]
  rfl

namespace IsCompiled

/-- A lookup of a compiled enum is exact: a raw value of its kind finds the variant that has
it. -/
lemma fromRaw?_eq_some_iff (h : e.IsCompiled) {value : RawValue} (hkind : value.kind = e.kind)
    {variant : String} :
    e.fromRaw? value = some variant ↔
      variant ∈ e.variants ∧ e.rawValue? variant = some value := by
  obtain ⟨modulePath, valuation, decl, args, ⟨hsuccess, hnames, hnumbers⟩, hmade⟩ := h
  obtain ⟨_, config, hitem, hexpands⟩ := Item.expand_isSuccess_iff.mp hsuccess
  cases hitem
  rw [ofExpansion?_eq hexpands, Option.some.injEq] at hmade
  rw [hexpands.expand_eq, EnumDecl.generate_kind] at hnumbers
  subst hmade
  cases value with
  | text text =>
    have hkind : config.kind = .text := hkind.symm
    simp only [fromRaw?, rawValue?, variants, hexpands.variantNames_lookup]
    rw [hexpands.fromRaw?_text_eq_some_iff hkind,
      hexpands.rawValue?_text_eq_some_iff hkind hnames]
    constructor
    · rintro ⟨v, hv, rfl, rfl⟩
      exact ⟨List.mem_map_of_mem hv, v, hv, rfl, rfl⟩
    · rintro ⟨-, v, hv, rfl, htext⟩
      cases htext
      exact ⟨v, hv, rfl, rfl⟩
  | integer n =>
    have hkind : config.kind = .integer := hkind.symm
    obtain ⟨hdistinct, hrange⟩ := hnumbers (by rw [hkind])
    simp only [fromRaw?, rawValue?, variants, hexpands.variantNames_lookup]
    rw [EnumDecl.fromRaw?_integer_eq_some_iff hkind,
      EnumDecl.rawValue?_integer_eq_some_iff hkind]
    · simp [eq_comm]
    · -- The numbering lists the rendered variants, which are the arms of the lookup.
      have hkeys : ((decl.applied (decl.generate config)).numbering valuation).map Prod.fst =
          (decl.completed config).map Variant.name := by
        rw [EnumDecl.numbering_names, EnumDecl.applied_generate_names]
      have hcompleted := EnumDecl.completed_names_nodup config hnames
      rw [← hkeys] at hcompleted ⊢
      exact numberIn_nodup hcompleted hdistinct hrange

lemma fromRaw?_eq_none_iff (h : e.IsCompiled) {value : RawValue} (hkind : value.kind = e.kind) :
    e.fromRaw? value = none ↔ ∀ variant ∈ e.variants, e.rawValue? variant ≠ some value := by
  rw [Option.eq_none_iff_forall_ne_some]
  simp only [ne_eq, h.fromRaw?_eq_some_iff hkind, not_and]

end IsCompiled

end RawEnum

/-- All enums of the catalog compile. -/
lemma Catalog.isCompiled {modulePath name : String} {e : RawEnum}
    (h : find? modulePath name = some e) : e.IsCompiled := by
  have hall : ∀ entry ∈ all, entry.decl.Compiles entry.args valuation := by decide +kernel
  obtain ⟨entry, hentry, hmade⟩ := Option.bind_eq_some_iff.mp h
  exact ⟨modulePath, valuation, entry.decl, entry.args,
    hall entry (List.mem_of_find?_eq_some hentry), hmade⟩

end FallbackEnum
