import FallbackEnum.Catalog
import FallbackEnum.Proofs.Numerals
import FallbackEnum.Proofs.Outcome
import FallbackEnum.Proofs.Places

/-!
# Expanding again

An item that was expanded is not changed by a second expansion with the same arguments. A text
enum has lost its `repr`, so it is not expanded again. An integer enum is expanded again, but it
has its fallback already and derives no decoding any more.
-/

namespace FallbackEnum

/-- The fallback of an integer enum passes the check of its variants. -/
lemma Configuration.fallbackVariant_fits_integer {config : Configuration}
    (h : config.fallback.kind = .integer) : config.fallbackVariant.fits .integer = true := by
  obtain ⟨n, hfallback⟩ := RawValue.exists_integer h
  simp [Variant.fits, Variant.discriminantFits, fallbackVariant, Variant.textLiteral?, hfallback,
    textLiteral?_tokens_integer, Fields.isUnit]

/-! ### Text enums -/

namespace EnumDecl

variable {decl : EnumDecl} {args : Arguments} {config : Configuration}

lemma rawKind?_dropRawValues (decl : EnumDecl) : decl.dropRawValues.rawKind? = none := by
  apply rawKind?_eq_none_iff.mpr
  apply LacksKind.noRepr
  intro attr hattr
  simpa using (List.mem_filter.mp hattr).2

/-- A rendered text enum does not ask for a raw kind any more. -/
lemma rawKind?_applied_text (decl : EnumDecl) (hkind : config.kind = .text) :
    (decl.applied (decl.generate config)).rawKind? = none := by
  rw [applied_generate, hkind]
  dsimp only
  rw [if_pos rfl]
  split_ifs
  · rw [rawKind?_stripDecoding, rawKind?_dropRawValues]
  · rw [rawKind?_dropRawValues]

/-! ### Integer enums -/

lemma rawKind?_extendedBy (decl : EnumDecl) (added : Option Variant) :
    (decl.extendedBy added).rawKind? = decl.rawKind? := by
  cases added <;> rfl

/-- Rendering an integer enum changes nothing that a further expansion reads, besides the
fallback. -/
lemma sameShape_applied_integer (decl : EnumDecl) (hkind : config.kind = .integer) :
    (decl.extendedBy (decl.missingFallback? config)).SameShape
      (decl.applied (decl.generate config)) := by
  have hinteger : RawKind.integer ≠ .text := by decide
  rw [applied_generate, hkind]
  dsimp only
  rw [if_neg hinteger]
  split_ifs
  · exact sameShape_stripDecoding _
  · exact ⟨rfl, rfl, rfl⟩

lemma Expands.extendedBy (h : decl.Expands args config) (hkind : config.kind = .integer) :
    (decl.extendedBy (decl.missingFallback? config)).Expands args config where
  kind := (rawKind?_extendedBy decl _).trans h.kind
  resolved := Configuration.resolve_anchor _ h.resolved
  valid := by
    obtain ⟨hfits, -⟩ := validate_eq_ok_iff.mp h.valid
    rw [validate_eq_ok_iff, extendedBy_variants, hkind]
    refine ⟨?_, nofun⟩
    intro v hv
    rcases List.mem_append.mp hv with hdeclared | hadded
    · exact hkind ▸ hfits v hdeclared
    · rw [Option.mem_toList, missingFallback?] at hadded
      split_ifs at hadded
      cases hadded
      exact Configuration.fallbackVariant_fits_integer (h.fallback_kind.trans hkind)

lemma Expands.applied (h : decl.Expands args config) (hkind : config.kind = .integer) :
    (decl.applied (decl.generate config)).Expands args config :=
  (sameShape_applied_integer decl hkind).expands (h.extendedBy hkind)

lemma missingFallback?_applied (decl : EnumDecl) (config : Configuration) :
    (decl.applied (decl.generate config)).missingFallback? config = none := by
  have hmem := safeCase_mem_completed decl config
  rw [← applied_generate_names] at hmem
  rw [missingFallback?, hasVariant_iff.mpr hmem, if_pos rfl]

/-- There is nothing left to add to a rendered integer enum, and nothing to strip. -/
lemma applied_applied (decl : EnumDecl) (hkind : config.kind = .integer) :
    (decl.applied (decl.generate config)).applied
        ((decl.applied (decl.generate config)).generate config) =
      decl.applied (decl.generate config) := by
  rw [applied_generate (decl.applied _), missingFallback?_applied, declaresDecoding_applied,
    hkind]
  rfl

end EnumDecl

/-! ### The expanded item -/

namespace Item

variable {decl : EnumDecl} {item : Item} {args : Arguments}

lemma expand_of_rawKind?_eq_none (h : decl.rawKind? = none) :
    (Item.enum decl).expand args = .failed ⟨.invalidRawValue, decl.span⟩ := by
  rw [expand, expand?_of_lacksKind (EnumDecl.rawKind?_eq_none_iff.mp h)]

lemma kept_of_rawKind? (h : decl.rawKind? ≠ some .text) :
    (Item.enum decl).kept = .enum decl := by
  rw [kept, if_neg h]

lemma expanded_of_rawKind?_eq_none (h : decl.rawKind? = none) :
    (Item.enum decl).expanded args = .enum decl := by
  rw [expanded_of_not_isSuccess (by rw [expand_of_rawKind?_eq_none h]; rfl)]
  exact kept_of_rawKind? (by rw [h]; exact nofun)

/-- A text enum loses its `repr`, whether its expansion succeeds or not. -/
lemma exists_expanded_text (args : Arguments) (h : decl.rawKind? = some .text) :
    ∃ after, (Item.enum decl).expanded args = .enum after ∧ after.rawKind? = none := by
  cases hsuccess : ((Item.enum decl).expand args).isSuccess with
  | true =>
    obtain ⟨_, config, hitem, hexpands⟩ := expand_isSuccess_iff.mp hsuccess
    cases hitem
    have hkind : config.kind = .text := Option.some.inj (hexpands.kind.symm.trans h)
    exact ⟨_, expanded_of_expands hexpands, decl.rawKind?_applied_text hkind⟩
  | false =>
    refine ⟨decl.dropRawValues, ?_, decl.rawKind?_dropRawValues⟩
    rw [expanded_of_not_isSuccess hsuccess, kept, if_pos h]

/-- A second expansion changes nothing. -/
lemma expanded_expanded (item : Item) (args : Arguments) :
    (item.expanded args).expanded args = item.expanded args := by
  cases item with
  | other code span => rfl
  | enum decl =>
    cases hkind : decl.rawKind? with
    | none =>
      have hkept : (Item.enum decl).expanded args = .enum decl :=
        expanded_of_rawKind?_eq_none hkind
      rw [hkept, hkept]
    | some kind =>
      cases kind with
      | text =>
        obtain ⟨after, hafter, hnone⟩ := exists_expanded_text args hkind
        rw [hafter, expanded_of_rawKind?_eq_none hnone]
      | integer =>
        cases hsuccess : ((Item.enum decl).expand args).isSuccess with
        | true =>
          obtain ⟨_, config, hitem, hexpands⟩ := expand_isSuccess_iff.mp hsuccess
          cases hitem
          have hinteger : config.kind = .integer :=
            Option.some.inj (hexpands.kind.symm.trans hkind)
          rw [expanded_of_expands hexpands, expanded_of_expands (hexpands.applied hinteger),
            decl.applied_applied hinteger]
        | false =>
          have hkept : (Item.enum decl).expanded args = .enum decl := by
            rw [expanded_of_not_isSuccess hsuccess]
            exact kept_of_rawKind? (by rw [hkind]; decide)
          rw [hkept, hkept]

lemma head?_render (item : Item) (args : Arguments) :
    (item.render (item.expand args)).head? = some (.item (item.expanded args)) := by
  cases item with
  | other code span => rfl
  | enum decl =>
    cases hsuccess : ((Item.enum decl).expand args).isSuccess with
    | true => simp [render, expanded, hsuccess]
    | false => simp [render, expanded, hsuccess]

end Item

/-- Expanding is idempotent on the first declaration of the rendered code, also if that is
printed and read before it is expanded again. An integer enum that was expanded expands again and
gets no further fallback; what was a text enum fails for want of a raw kind and stays as it
is. -/
theorem expanded_again (item : Item) (args : Arguments) :
    (item.render (item.expand args)).head? = some (.item (item.expanded args)) ∧
      (item.expanded args).expanded args = item.expanded args ∧
      ∀ again : Item, again.Alike (item.expanded args) →
        (again.expanded args).Alike (item.expanded args) ∧
        (again.expanded args).tokens = (item.expanded args).tokens ∧
        ((item.expand args).isSuccess = true → (item.expand args).kind = some .integer →
          (again.expand args).isSuccess = true ∧ (again.expand args).fallbackVariant? = none) ∧
        (∀ decl, item = .enum decl → decl.rawKind? = some .text →
          (again.expand args).diagnostics = [⟨.invalidRawValue, again.span⟩] ∧
            again.expanded args = again) := by
  refine ⟨item.head?_render args, item.expanded_expanded args, ?_⟩
  intro again halike
  have hagain : (again.expanded args).Alike (item.expanded args) := by
    have hexpanded := halike.expanded args
    rwa [item.expanded_expanded] at hexpanded
  refine ⟨hagain, hagain.tokens_eq, ?_, ?_⟩
  · intro hsuccess hkind
    obtain ⟨decl, config, rfl, h⟩ := Item.expand_isSuccess_iff.mp hsuccess
    rw [h.expand_eq, EnumDecl.generate_kind, Option.some.injEq] at hkind
    rw [Item.expanded_of_expands h] at halike
    obtain ⟨after, rfl, hunplaced⟩ := halike.exists_enum
    have hshape := EnumDecl.sameShape_of_unplaced hunplaced
    have hafter := hshape.expands (h.applied hkind)
    refine ⟨Item.expand_isSuccess_iff.mpr ⟨after, config, rfl, hafter⟩, ?_⟩
    rw [hafter.expand_eq, EnumDecl.generate_fallbackVariant?, hshape.missingFallback?,
      EnumDecl.missingFallback?_applied]
  · rintro decl rfl hkind
    obtain ⟨untexted, hexpanded, hnone⟩ := Item.exists_expanded_text args hkind
    rw [hexpanded] at halike
    obtain ⟨after, rfl, hunplaced⟩ := halike.exists_enum
    have hlacks : after.rawKind? = none :=
      (EnumDecl.sameShape_of_unplaced hunplaced).kind.trans hnone
    refine ⟨?_, Item.expanded_of_rawKind?_eq_none hlacks⟩
    rw [Item.expand_of_rawKind?_eq_none hlacks]
    rfl

/-- The expanded enum of priorities, read from its printed form. -/
def rereadPriority : EnumDecl :=
  { Catalog.priority.decl with
    attrs := [
      { path := { segments := ["derive"] }
        body := .list .paren [.word "Debug"] },
      Catalog.reprAttribute .integer]
    variants := [
      { Catalog.low with span := ⟨⟨1, 54⟩, ⟨1, 61⟩⟩ },
      { Catalog.high with span := ⟨⟨1, 64⟩, ⟨1, 72⟩⟩ },
      { Configuration.fallbackVariant ⟨Catalog.otherName, .integer (-1), .integer⟩ with
        span := ⟨⟨1, 75⟩, ⟨1, 143⟩⟩ }]
    trailingComma := false
    span := ⟨⟨1, 0⟩, ⟨1, 145⟩⟩ }

theorem rereadPriority_expanded_again :
    ((Item.enum Catalog.priority.decl).expand Catalog.priority.args).isSuccess = true ∧
      (Item.enum rereadPriority).Alike
        ((Item.enum Catalog.priority.decl).expanded Catalog.priority.args) ∧
      ((Item.enum rereadPriority).expand Catalog.priority.args).isSuccess = true ∧
      ((Item.enum rereadPriority).expand Catalog.priority.args).fallbackVariant? = none ∧
      ((Item.enum rereadPriority).expanded Catalog.priority.args).Alike
        ((Item.enum Catalog.priority.decl).expanded Catalog.priority.args) := by
  have hsuccess :
      ((Item.enum Catalog.priority.decl).expand Catalog.priority.args).isSuccess = true := by
    decide +kernel
  have hkind :
      ((Item.enum Catalog.priority.decl).expand Catalog.priority.args).kind = some .integer := by
    decide +kernel
  have halike : (Item.enum rereadPriority).Alike
      ((Item.enum Catalog.priority.decl).expanded Catalog.priority.args) := by
    have hexpands : Catalog.priority.decl.Expands Catalog.priority.args
        ⟨Catalog.otherName, .integer (-1), .integer⟩ := ⟨by decide +kernel, rfl, rfl⟩
    rw [Item.expanded_of_expands hexpands]
    rfl
  obtain ⟨-, -, hagain⟩ := expanded_again (.enum Catalog.priority.decl) Catalog.priority.args
  obtain ⟨hsame, -, hinteger, -⟩ := hagain (.enum rereadPriority) halike
  obtain ⟨hexpands, hfallback⟩ := hinteger hsuccess hkind
  exact ⟨hsuccess, halike, hexpands, hfallback, hsame⟩

end FallbackEnum
