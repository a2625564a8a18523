import FallbackEnum.Proofs.Expansion

/-!
# Outcomes of an expansion

An expansion has six outcomes, decided stage by stage: the item is no enum, the enum names no raw
kind, the raw value that is given is of the other kind, a variant does not fit, a raw value is
not unique, or the expansion succeeds. `Outcome` says which one, by conditions on the declaration
and the arguments alone. Exactly one outcome applies to each item; a fault is then all that the
expansion gives, and a success gives all of its declarations.
-/

namespace FallbackEnum

/-! ### The raw kind of a declaration -/

namespace EnumDecl

/-- The attribute is the first `repr` of the declaration. -/
def FirstRepr (decl : EnumDecl) (repr : Attribute) : Prop :=
  repr.isNamed "repr" = true ∧
    ∃ before after, decl.attrs = before ++ repr :: after ∧
      ∀ attr ∈ before, attr.isNamed "repr" = false

/-- The first entry of the first `repr` has the name of the kind. -/
def NamesKind (decl : EnumDecl) (kind : RawKind) : Prop :=
  ∃ repr first entries, decl.FirstRepr repr ∧ repr.metas? = some (first :: entries) ∧
    first.path.isName kind.typeName = true

/-- Why a declaration names no raw kind. -/
inductive LacksKind (decl : EnumDecl) : Prop where
  | noRepr (habsent : ∀ attr ∈ decl.attrs, attr.isNamed "repr" = false)
  | unreadable (repr : Attribute) (hfirst : decl.FirstRepr repr) (hmetas : repr.metas? = none)
  | noEntry (repr : Attribute) (hfirst : decl.FirstRepr repr) (hmetas : repr.metas? = some [])
  | unsupported (repr first : Attribute) (entries : List Attribute)
      (hfirst : decl.FirstRepr repr) (hmetas : repr.metas? = some (first :: entries))
      (hname : ∀ kind : RawKind, first.path.isName kind.typeName = false)

variable {decl : EnumDecl}

lemma firstRepr_iff_find? {repr : Attribute} :
    decl.FirstRepr repr ↔ decl.attrs.find? (·.isNamed "repr") = some repr := by
  rw [List.find?_eq_some_iff_append, FirstRepr]
  simp only [Bool.not_eq_true']

lemma rawKind?_of_first {repr first : Attribute} {entries : List Attribute}
    (hfirst : decl.FirstRepr repr) (hmetas : repr.metas? = some (first :: entries)) :
    decl.rawKind? = first.path.name?.bind RawKind.ofTypeName? := by
  simp [rawKind?, rawBase?, firstRepr_iff_find?.mp hfirst, hmetas]

end EnumDecl

lemma RawKind.ofTypeName?_eq_some_iff {name : String} {kind : RawKind} :
    ofTypeName? name = some kind ↔ name = kind.typeName := by
  constructor
  · intro h
    have hname := List.find?_some h
    exact (beq_iff_eq.mp hname).symm
  · rintro rfl
    exact ofTypeName?_typeName kind

lemma ModPath.name?_bind_ofTypeName?_eq_some_iff {path : ModPath} {kind : RawKind} :
    path.name?.bind RawKind.ofTypeName? = some kind ↔ path.isName kind.typeName = true := by
  simp only [Option.bind_eq_some_iff, RawKind.ofTypeName?_eq_some_iff, exists_eq_right, isName,
    decide_eq_true_eq]

namespace EnumDecl

variable {decl : EnumDecl}

lemma rawKind?_eq_some_iff {kind : RawKind} :
    decl.rawKind? = some kind ↔ decl.NamesKind kind := by
  constructor
  · intro h
    simp only [rawKind?, rawBase?, Option.bind_eq_bind, Option.bind_eq_some_iff] at h
    obtain ⟨name, ⟨repr, hrepr, entries, hmetas, first, hhead, hname⟩, hkind⟩ := h
    obtain ⟨rest, rfl⟩ := List.head?_eq_some_iff.mp hhead
    refine ⟨repr, first, rest, firstRepr_iff_find?.mpr hrepr, hmetas, ?_⟩
    rw [← ModPath.name?_bind_ofTypeName?_eq_some_iff, hname]
    exact hkind
  · rintro ⟨repr, first, entries, hfirst, hmetas, hname⟩
    rw [rawKind?_of_first hfirst hmetas]
    exact ModPath.name?_bind_ofTypeName?_eq_some_iff.mpr hname

lemma rawKind?_eq_none_iff : decl.rawKind? = none ↔ decl.LacksKind := by
  constructor
  · intro h
    cases hrepr : decl.attrs.find? (·.isNamed "repr") with
    | none =>
      apply LacksKind.noRepr
      simpa using hrepr
    | some repr =>
      have hfirst := firstRepr_iff_find?.mpr hrepr
      cases hmetas : repr.metas? with
      | none => exact .unreadable repr hfirst hmetas
      | some entries =>
        cases entries with
        | nil => exact .noEntry repr hfirst hmetas
        | cons first entries =>
          refine .unsupported repr first entries hfirst hmetas fun kind => ?_
          rw [rawKind?_of_first hfirst hmetas] at h
          rw [← Bool.not_eq_true, ← ModPath.name?_bind_ofTypeName?_eq_some_iff, h]
          exact nofun
  · intro h
    cases h with
    | noRepr habsent =>
      have hnone : decl.attrs.find? (·.isNamed "repr") = none := by simpa using habsent
      simp [rawKind?, rawBase?, hnone]
    | unreadable repr hfirst hmetas =>
      simp [rawKind?, rawBase?, firstRepr_iff_find?.mp hfirst, hmetas]
    | noEntry repr hfirst hmetas =>
      simp [rawKind?, rawBase?, firstRepr_iff_find?.mp hfirst, hmetas]
    | unsupported repr first entries hfirst hmetas hname =>
      rw [rawKind?_of_first hfirst hmetas, Option.eq_none_iff_forall_ne_some]
      intro kind hkind
      have hnamed := ModPath.name?_bind_ofTypeName?_eq_some_iff.mp hkind
      exact Bool.false_ne_true ((hname kind).symm.trans hnamed)

end EnumDecl

/-! ### The configuration -/

/-- No raw value of the other kind is given. -/
def Arguments.Fit (args : Arguments) (kind : RawKind) : Prop :=
  ∀ value, args.rawValue = some value → value.kind = kind

lemma Arguments.exists_of_not_fit {args : Arguments} {kind : RawKind} (h : ¬ args.Fit kind) :
    ∃ value, args.rawValue = some value ∧ value.kind ≠ kind := by
  rw [Fit] at h
  push Not at h
  exact h

namespace Configuration

/-- The arguments, completed by the defaults of the kind. -/
def completing (kind : RawKind) (args : Arguments) : Configuration :=
  let name := args.fallbackName.getD defaultName
  ⟨name, args.rawValue.getD (defaultFallback name.text kind), kind⟩

lemma resolve_of_fit {kind : RawKind} {args : Arguments} (anchor : Span) (hfit : args.Fit kind) :
    resolve kind args anchor = .ok (completing kind args) := by
  cases hvalue : args.rawValue with
  | none => simp [resolve, completing, hvalue]
  | some value => simp [resolve, completing, hvalue, hfit value hvalue]

lemma resolve_of_mismatch {kind : RawKind} {args : Arguments} {value : RawValue} (anchor : Span)
    (hgiven : args.rawValue = some value) (hother : value.kind ≠ kind) :
    resolve kind args anchor = .error ⟨.rawValueMismatch, anchor⟩ := by
  simp [resolve, hgiven, hother]

end Configuration

/-- The check of an enum against a configuration. -/
def EnumDecl.validateFor (decl : EnumDecl) (config : Configuration) : Except Diagnostic Unit :=
  decl.validate config.kind config.safeCase config.fallback

lemma EnumDecl.validate_fault {decl : EnumDecl} {kind : RawKind} {safeCase : String}
    {fallback : RawValue} {d : Diagnostic}
    (h : decl.validate kind safeCase fallback = .error d) :
    d.fault = .invalidVariantRawValue ∨ d.fault = .duplicateRawValue := by
  unfold validate at h
  split at h
  · cases h
    exact .inl rfl
  · cases kind with
    | integer => cases h
    | text =>
      dsimp only at h
      split at h
      · cases h
        exact .inr rfl
      · split_ifs at h
        cases h
        exact .inr rfl

/-- The check comes to two questions: do all variants fit, and if so, are the texts of a text
enum distinct, with that of a fallback to be added? -/
lemma EnumDecl.validateFor_fault (decl : EnumDecl) (config : Configuration) :
    (decl.validateFor config).mapError Diagnostic.fault =
      if ∀ v ∈ decl.variants, v.fits config.kind = true then
        if config.kind = .text → (decl.variants.map Variant.textValue).Nodup ∧
            decl.fallbackClashes config.safeCase config.fallback = false then .ok ()
        else .error .duplicateRawValue
      else .error .invalidVariantRawValue := by
  unfold validateFor validate
  cases hmisfit : decl.variants.find? fun v => !v.fits config.kind with
  | some misfit =>
    -- A misfit anywhere is found before any text is compared.
    have hnot : ¬ ∀ v ∈ decl.variants, v.fits config.kind = true := by
      intro hfits
      have hunfit := List.find?_some hmisfit
      simp [hfits misfit (List.mem_of_find?_eq_some hmisfit)] at hunfit
    rw [if_neg hnot]
    rfl
  | none =>
    have hfits : ∀ v ∈ decl.variants, v.fits config.kind = true := by simpa using hmisfit
    rw [if_pos hfits]
    cases config.kind with
    | integer => rfl
    | text =>
      have hdistinct := firstDuplicate?_eq_none_iff [] decl.variants
      cases hduplicate : firstDuplicate? [] decl.variants with
      | some duplicate =>
        have htexts : ¬ (decl.variants.map Variant.textValue).Nodup := by
          intro htexts
          simp [hduplicate, htexts] at hdistinct
        simp [htexts, Except.mapError]
      | none =>
        have htexts := (hdistinct.mp hduplicate).1
        cases hclash : decl.fallbackClashes config.safeCase config.fallback <;>
          simp [htexts, Except.mapError]

/-! ### Outcomes -/

/-- What an expansion comes to, by the first stage that does not go through. -/
inductive Outcome (args : Arguments) : Item → Except Diagnostic Configuration → Prop where
  | notAnEnum (code : List Token) (span : Span) :
      Outcome args (.other code span) (.error ⟨.notAnEnum, span⟩)
  | invalidRawValue (decl : EnumDecl) (hkind : decl.LacksKind) :
      Outcome args (.enum decl) (.error ⟨.invalidRawValue, decl.span⟩)
  | rawValueMismatch (decl : EnumDecl) (kind : RawKind) (value : RawValue)
      (hkind : decl.NamesKind kind) (hgiven : args.rawValue = some value)
      (hother : value.kind ≠ kind) :
      Outcome args (.enum decl) (.error ⟨.rawValueMismatch, decl.span⟩)
  | invalidVariantRawValue (decl : EnumDecl) (kind : RawKind) (span : Span)
      (hkind : decl.NamesKind kind) (hfit : args.Fit kind)
      (hvalid : decl.validateFor (.completing kind args) =
        .error ⟨.invalidVariantRawValue, span⟩) :
      Outcome args (.enum decl) (.error ⟨.invalidVariantRawValue, span⟩)
  | duplicateRawValue (decl : EnumDecl) (kind : RawKind) (span : Span)
      (hkind : decl.NamesKind kind) (hfit : args.Fit kind)
      (hvalid : decl.validateFor (.completing kind args) = .error ⟨.duplicateRawValue, span⟩) :
      Outcome args (.enum decl) (.error ⟨.duplicateRawValue, span⟩)
  | success (decl : EnumDecl) (kind : RawKind)
      (hkind : decl.NamesKind kind) (hfit : args.Fit kind)
      (hvalid : decl.validateFor (.completing kind args) = .ok ()) :
      Outcome args (.enum decl) (.ok (.completing kind args))

namespace Item

variable {decl : EnumDecl} {args : Arguments}

lemma expand?_of_lacksKind (hkind : decl.LacksKind) :
    (Item.enum decl).expand? args = .error ⟨.invalidRawValue, decl.span⟩ := by
  simp [expand?, requireEnum, bind, Except.bind, EnumDecl.rawKind?_eq_none_iff.mpr hkind]

lemma expand?_of_mismatch {kind : RawKind} {value : RawValue} (hkind : decl.NamesKind kind)
    (hgiven : args.rawValue = some value) (hother : value.kind ≠ kind) :
    (Item.enum decl).expand? args = .error ⟨.rawValueMismatch, decl.span⟩ := by
  simp [expand?, requireEnum, bind, Except.bind, EnumDecl.rawKind?_eq_some_iff.mpr hkind,
    Configuration.resolve_of_mismatch _ hgiven hother]

/-- Behind the first two stages, the check of the variants decides. -/
lemma expand?_of_fit {kind : RawKind} (hkind : decl.NamesKind kind) (hfit : args.Fit kind) :
    (Item.enum decl).expand? args =
      (decl.validateFor (.completing kind args)).map fun _ =>
        decl.generate (.completing kind args) := by
  have hvalidate : decl.validate kind (Configuration.completing kind args).safeCase
      (Configuration.completing kind args).fallback =
        decl.validateFor (.completing kind args) := rfl
  simp only [expand?, requireEnum, bind, Except.bind, EnumDecl.rawKind?_eq_some_iff.mpr hkind,
    Configuration.resolve_of_fit decl.span hfit, hvalidate]
  cases decl.validateFor (.completing kind args) <;> rfl

lemma faults_of_fit {kind : RawKind} (hkind : decl.NamesKind kind) (hfit : args.Fit kind) :
    ((Item.enum decl).expand args).diagnostics.map Diagnostic.fault =
      match (decl.validateFor (.completing kind args)).mapError Diagnostic.fault with
      | .ok _ => []
      | .error fault => [fault] := by
  rw [expand, expand?_of_fit hkind hfit]
  cases decl.validateFor (.completing kind args) <;> rfl

/-- Enums of one raw kind are reported for the same fault if the check finds the same in them. -/
lemma faults_congr {other : EnumDecl} (hkind : other.rawKind? = decl.rawKind?)
    (hvalid : ∀ kind, decl.rawKind? = some kind → args.Fit kind →
      (other.validateFor (.completing kind args)).mapError Diagnostic.fault =
        (decl.validateFor (.completing kind args)).mapError Diagnostic.fault) :
    ((Item.enum other).expand args).diagnostics.map Diagnostic.fault =
      ((Item.enum decl).expand args).diagnostics.map Diagnostic.fault := by
  cases hdecl : decl.rawKind? with
  | none =>
    have hlacks := EnumDecl.rawKind?_eq_none_iff.mp hdecl
    have hlacks' := EnumDecl.rawKind?_eq_none_iff.mp (hkind.trans hdecl)
    rw [expand, expand, expand?_of_lacksKind hlacks', expand?_of_lacksKind hlacks]
    rfl
  | some kind =>
    have hnames := EnumDecl.rawKind?_eq_some_iff.mp hdecl
    have hnames' := EnumDecl.rawKind?_eq_some_iff.mp (hkind.trans hdecl)
    by_cases hfit : args.Fit kind
    · rw [faults_of_fit hnames' hfit, faults_of_fit hnames hfit, hvalid kind hdecl hfit]
    · obtain ⟨value, hgiven, hmismatch⟩ := Arguments.exists_of_not_fit hfit
      rw [expand, expand, expand?_of_mismatch hnames' hgiven hmismatch,
        expand?_of_mismatch hnames hgiven hmismatch]
      rfl

end Item

namespace Outcome

variable {args : Arguments} {item : Item}

lemma expand?_eq_error {d : Diagnostic} (h : Outcome args item (.error d)) :
    item.expand? args = .error d := by
  cases h with
  | notAnEnum => rfl
  | invalidRawValue decl hkind => exact Item.expand?_of_lacksKind hkind
  | rawValueMismatch decl kind value hkind hgiven hother =>
    exact Item.expand?_of_mismatch hkind hgiven hother
  | invalidVariantRawValue decl kind span hkind hfit hvalid =>
    rw [Item.expand?_of_fit hkind hfit, hvalid, Except.map]
  | duplicateRawValue decl kind span hkind hfit hvalid =>
    rw [Item.expand?_of_fit hkind hfit, hvalid, Except.map]

lemma expand?_eq_ok {config : Configuration} (h : Outcome args item (.ok config)) :
    ∃ decl, item = .enum decl ∧ decl.rawKind? = some config.kind ∧
      config = .completing config.kind args ∧
      item.expand? args = .ok (decl.generate config) := by
  cases h with
  | success decl kind hkind hfit hvalid =>
    refine ⟨decl, rfl, EnumDecl.rawKind?_eq_some_iff.mpr hkind, rfl, ?_⟩
    rw [Item.expand?_of_fit hkind hfit, hvalid, Except.map]

lemma unique {first second : Except Diagnostic Configuration} (h₁ : Outcome args item first)
    (h₂ : Outcome args item second) : first = second := by
  cases first with
  | error d₁ =>
    have hfirst := h₁.expand?_eq_error
    cases second with
    | error d₂ =>
      have hsecond := h₂.expand?_eq_error
      exact congrArg _ (Except.error.inj (hfirst.symm.trans hsecond))
    | ok config₂ =>
      obtain ⟨decl, -, -, -, hsecond⟩ := h₂.expand?_eq_ok
      cases hfirst.symm.trans hsecond
  | ok config₁ =>
    obtain ⟨decl, rfl, hkind₁, hconfig₁, hfirst⟩ := h₁.expand?_eq_ok
    cases second with
    | error d₂ =>
      have hsecond := h₂.expand?_eq_error
      cases hfirst.symm.trans hsecond
    | ok config₂ =>
      obtain ⟨_, hdecl, hkind₂, hconfig₂, -⟩ := h₂.expand?_eq_ok
      cases hdecl
      rw [hkind₁] at hkind₂
      rw [hconfig₁, hconfig₂, Option.some.inj hkind₂]

/-- Some stage fails first, or none does. -/
lemma exists_outcome (item : Item) (args : Arguments) :
    ∃ outcome, Outcome args item outcome := by
  cases item with
  | other code span => exact ⟨_, .notAnEnum code span⟩
  | enum decl =>
    cases hkind : decl.rawKind? with
    | none => exact ⟨_, .invalidRawValue decl (EnumDecl.rawKind?_eq_none_iff.mp hkind)⟩
    | some kind =>
      rw [EnumDecl.rawKind?_eq_some_iff] at hkind
      by_cases hfit : args.Fit kind
      · cases hvalid : decl.validateFor (.completing kind args) with
        | ok => exact ⟨_, .success decl kind hkind hfit hvalid⟩
        | error d =>
          obtain ⟨fault, span⟩ := d
          rcases EnumDecl.validate_fault hvalid with hfault | hfault <;> cases hfault
          · exact ⟨_, .invalidVariantRawValue decl kind span hkind hfit hvalid⟩
          · exact ⟨_, .duplicateRawValue decl kind span hkind hfit hvalid⟩
      · obtain ⟨value, hgiven, hother⟩ := Arguments.exists_of_not_fit hfit
        exact ⟨_, .rawValueMismatch decl kind value hkind hgiven hother⟩

end Outcome

/-! ### What an expansion gives -/

namespace Expansion

/-- The fault is all that the expansion gives. -/
structure Reports (e : Expansion) (d : Diagnostic) : Prop where
  diagnostics : e.diagnostics = [d]
  members : e.members = []
  lookup : e.lookup = none
  extension : e.extension = none
  deriveReplacement : e.deriveReplacement = none
  kind : e.kind = none

/-- The expansion gives all declarations for an enum of the kind: a routine, perhaps a fallback
before it, a lookup, and one conformance in one of its two places. -/
structure Completes (e : Expansion) (kind : RawKind) : Prop where
  diagnostics : e.diagnostics = []
  members : ∃ (added : Option Variant) (routine : DecodeRoutine),
    e.members = (added.map Member.variant).toList ++ [.routine routine]
  lookup : e.lookup.isSome = true
  conformance : e.extension.isSome = !e.deriveReplacement.isSome
  kind : e.kind = some kind

lemma reports_failed (d : Diagnostic) : (failed d).Reports d := ⟨rfl, rfl, rfl, rfl, rfl, rfl⟩

end Expansion

lemma EnumDecl.generate_completes (decl : EnumDecl) (config : Configuration) :
    (decl.generate config).Completes config.kind where
  diagnostics := rfl
  members := ⟨decl.missingFallback? config, .ofConfiguration config, rfl⟩
  lookup := rfl
  conformance := by
    cases hdecoding : decl.declaresDecoding <;>
      simp [generate, extension?, deriveReplacement?, hdecoding]
  kind := rfl

/-- Exactly one of the six outcomes applies to an item. If it is a fault, the expansion reports
it and gives nothing else; if it is a success, the expansion reports nothing and is complete. -/
theorem expand_outcome (item : Item) (args : Arguments) :
    ∃ outcome, Outcome args item outcome ∧
      (∀ other, Outcome args item other → other = outcome) ∧
      (∀ d, outcome = .error d → (item.expand args).Reports d) ∧
      (∀ config, outcome = .ok config → (item.expand args).Completes config.kind) := by
  obtain ⟨outcome, houtcome⟩ := Outcome.exists_outcome item args
  refine ⟨outcome, houtcome, fun other hother => hother.unique houtcome, ?_, ?_⟩
  · rintro d rfl
    rw [Item.expand, houtcome.expand?_eq_error]
    exact Expansion.reports_failed d
  · rintro config rfl
    obtain ⟨decl, -, -, -, hexpand⟩ := houtcome.expand?_eq_ok
    rw [Item.expand, hexpand]
    exact decl.generate_completes config

end FallbackEnum
