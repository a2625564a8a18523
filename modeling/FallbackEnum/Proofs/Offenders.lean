import FallbackEnum.Proofs.Expansion

/-!
# First offenders

What the check of an enum reports, by conditions on the declaration alone. The variants are
looked through twice, once for their shape and once for their texts. Each time the first one that
offends is reported, where an offence may depend on the variants before it. Only then does the
fallback count, and it is the whole enum that is reported for it.
-/

namespace FallbackEnum

/-! ### Shapes -/

/-- The code is a text literal with this text, attributes aside. -/
inductive DenotesText : List Token → String → Prop where
  | literal {spelling s : String} (h : Literal.value spelling = .text s) :
      DenotesText [.literal () spelling] s
  | attributed {spacing : Spacing} {inner code : List Token} {s : String}
      (h : DenotesText code s) :
      DenotesText (.punct () '#' spacing :: .group () .bracket inner :: code) s

lemma textLiteral?_eq_some_iff {code : List Token} {s : String} :
    textLiteral? code = some s ↔ DenotesText code s := by
  constructor
  · intro h
    fun_induction textLiteral? code with
    | case1 _ spelling value hvalue =>
      cases h
      exact .literal hvalue
    | case2 => cases h
    | case3 _ _ _ _ _ ih => exact .attributed (ih h)
    | case4 => cases h
  · intro h
    induction h with
    | literal h => simp [textLiteral?, h]
    | attributed _ ih => simpa [textLiteral?] using ih

lemma textLiteral?_eq_none_iff {code : List Token} :
    textLiteral? code = none ↔ ∀ s, ¬ DenotesText code s := by
  simp only [Option.eq_none_iff_forall_ne_some, ne_eq, textLiteral?_eq_some_iff]

/-- Why a variant has no raw value of a kind: it has fields, or its discriminant is of the wrong
shape. -/
inductive Variant.Misshapen (v : Variant) : RawKind → Prop where
  | fields {kind : RawKind} (h : v.fields ≠ .unit) : Misshapen v kind
  | noText {code : List Token} (hcode : v.discriminant = some code)
      (h : ∀ s, ¬ DenotesText code s) : Misshapen v .text
  | text {code : List Token} {s : String} (hcode : v.discriminant = some code)
      (h : DenotesText code s) : Misshapen v .integer

lemma Fields.isUnit_eq_false_iff {fields : Fields} : fields.isUnit = false ↔ fields ≠ .unit := by
  rw [← Bool.not_eq_true, isUnit_iff]

namespace Variant

lemma discriminantFits_eq_false_iff {v : Variant} {kind : RawKind} :
    v.discriminantFits kind = false ↔ ∃ code, v.discriminant = some code ∧
      (kind = .text ∧ (∀ s, ¬ DenotesText code s) ∨
        kind = .integer ∧ ∃ s, DenotesText code s) := by
  cases hcode : v.discriminant with
  | none => simp [discriminantFits, hcode]
  | some code =>
    cases kind with
    | text => simp [discriminantFits, hcode, textLiteral?, textLiteral?_eq_none_iff]
    | integer =>
      simp [discriminantFits, hcode, textLiteral?, Option.isSome_iff_exists,
        textLiteral?_eq_some_iff]

/-- The check of one variant is about its shape. -/
lemma fits_eq_false_iff {v : Variant} {kind : RawKind} :
    v.fits kind = false ↔ v.Misshapen kind := by
  rw [fits, Bool.and_eq_false_iff, Fields.isUnit_eq_false_iff, discriminantFits_eq_false_iff]
  constructor
  · rintro (hfields | ⟨code, hcode, ⟨rfl, h⟩ | ⟨rfl, s, h⟩⟩)
    · exact .fields hfields
    · exact .noText hcode h
    · exact .text hcode h
  · rintro (hfields | ⟨hcode, h⟩ | ⟨hcode, h⟩)
    · exact .inl hfields
    · exact .inr ⟨_, hcode, .inl ⟨rfl, h⟩⟩
    · exact .inr ⟨_, hcode, .inr ⟨rfl, _, h⟩⟩

end Variant

/-! ### The first of several -/

/-- The variant offends, given those before it, and none before it does. -/
def FirstOffender (Offends : List Variant → Variant → Prop) (vs : List Variant) (v : Variant) :
    Prop :=
  ∃ before after, vs = before ++ v :: after ∧ Offends before v ∧
    ∀ earlier w later, before = earlier ++ w :: later → ¬ Offends earlier w

section FirstOffender

variable {Offends : List Variant → Variant → Prop} {u v : Variant} {vs : List Variant}

lemma firstOffender_nil : ¬ FirstOffender Offends [] v := by
  rintro ⟨before, after, hvs, -⟩
  simp at hvs

/-- The first variant is the first offender, or the first one behind it is. -/
lemma firstOffender_cons :
    FirstOffender Offends (u :: vs) v ↔
      Offends [] u ∧ u = v ∨
      ¬ Offends [] u ∧ FirstOffender (fun before => Offends (u :: before)) vs v := by
  constructor
  · rintro ⟨before, after, hvs, hv, hbefore⟩
    cases before with
    | nil =>
      cases hvs
      exact .inl ⟨hv, rfl⟩
    | cons w before =>
      cases hvs
      refine .inr ⟨hbefore [] u before rfl, before, after, rfl, hv, ?_⟩
      rintro earlier w later rfl
      exact hbefore (u :: earlier) w later rfl
  · rintro (⟨hu, rfl⟩ | ⟨hu, before, after, rfl, hv, hbefore⟩)
    · exact ⟨[], vs, rfl, hu, by simp⟩
    · refine ⟨u :: before, after, rfl, hv, ?_⟩
      intro earlier w later hearlier
      cases earlier with
      | nil =>
        cases hearlier
        exact hu
      | cons _ earlier =>
        cases hearlier
        exact hbefore earlier w later rfl

end FirstOffender

lemma find?_eq_some_iff_firstOffender {p : Variant → Bool} {vs : List Variant} {v : Variant} :
    vs.find? p = some v ↔ FirstOffender (fun _ w => p w = true) vs v := by
  induction vs with
  | nil => simp [firstOffender_nil]
  | cons u vs ih =>
    rw [firstOffender_cons, ← ih]
    cases hu : p u <;> simp [hu]

/-- The variant has a text that is among those given, or that of a variant before it. -/
def Repeats (seen : List String) (before : List Variant) (v : Variant) : Prop :=
  v.textValue ∈ seen ∨ ∃ w ∈ before, w.textValue = v.textValue

lemma firstDuplicate?_eq_some_iff {seen : List String} {vs : List Variant} {v : Variant} :
    firstDuplicate? seen vs = some v ↔ FirstOffender (Repeats seen) vs v := by
  induction vs generalizing seen with
  | nil => simp [firstDuplicate?, firstOffender_nil]
  | cons u vs ih =>
    -- What was seen before `u` counts behind it, and so does the text of `u`.
    have hrepeats :
        (fun before => Repeats seen (u :: before)) = Repeats (u.textValue :: seen) := by
      funext before w
      simp [Repeats, eq_comm, or_left_comm, or_assoc]
    rw [firstOffender_cons, hrepeats, ← ih, firstDuplicate?]
    split_ifs with hseen
    · simp [Repeats, hseen]
    · simp [Repeats, hseen]

/-! ### Verdicts -/

namespace EnumDecl

/-- No variant is misshapen. -/
def WellShaped (decl : EnumDecl) (kind : RawKind) : Prop :=
  ∀ v ∈ decl.variants, ¬ v.Misshapen kind

/-- The texts of the variants. -/
def texts (decl : EnumDecl) : List String := decl.variants.map Variant.textValue

/-- The text of a fallback that is going to be added: none if its name is declared. -/
def insertedText (decl : EnumDecl) (safeCase : String) : RawValue → List String
  | .text literal => if safeCase ∈ decl.variants.map Variant.name then [] else [literal]
  | .integer _ => []

/-- What the check comes to. -/
inductive Verdict (decl : EnumDecl) (kind : RawKind) (safeCase : String) (fallback : RawValue) :
    Except Diagnostic Unit → Prop where
  | misshapen {v : Variant} (h : FirstOffender (fun _ w => w.Misshapen kind) decl.variants v) :
      Verdict decl kind safeCase fallback (.error ⟨.invalidVariantRawValue, v.span⟩)
  | duplicate {v : Variant} (hshape : decl.WellShaped kind) (hkind : kind = .text)
      (h : FirstOffender (fun before w => ∃ u ∈ before, u.textValue = w.textValue)
        decl.variants v) :
      Verdict decl kind safeCase fallback (.error ⟨.duplicateRawValue, v.span⟩)
  | clash {literal : String} (hshape : decl.WellShaped kind) (hkind : kind = .text)
      (hdistinct : decl.texts.Nodup) (hliteral : fallback = .text literal)
      (hname : ∀ v ∈ decl.variants, v.name ≠ safeCase)
      (h : ∃ v ∈ decl.variants, v.textValue = literal) :
      Verdict decl kind safeCase fallback (.error ⟨.duplicateRawValue, decl.span⟩)
  | valid (hshape : decl.WellShaped kind)
      (h : kind = .text → (decl.texts ++ decl.insertedText safeCase fallback).Nodup) :
      Verdict decl kind safeCase fallback (.ok ())

variable {decl : EnumDecl} {kind : RawKind} {safeCase : String} {fallback : RawValue}

lemma find?_misfit_eq_some_iff {v : Variant} :
    (decl.variants.find? fun w => !w.fits kind) = some v ↔
      FirstOffender (fun _ w => w.Misshapen kind) decl.variants v := by
  rw [find?_eq_some_iff_firstOffender]
  simp only [Bool.not_eq_true', Variant.fits_eq_false_iff]

lemma find?_misfit_eq_none_iff :
    (decl.variants.find? fun w => !w.fits kind) = none ↔ decl.WellShaped kind := by
  simp only [List.find?_eq_none, Bool.not_eq_true', Variant.fits_eq_false_iff, WellShaped]

lemma firstDuplicate?_variants_eq_some_iff {v : Variant} :
    firstDuplicate? [] decl.variants = some v ↔
      FirstOffender (fun before w => ∃ u ∈ before, u.textValue = w.textValue)
        decl.variants v := by
  have hrepeats : Repeats [] = fun before w => ∃ u ∈ before, u.textValue = w.textValue := by
    funext before w
    simp [Repeats]
  rw [firstDuplicate?_eq_some_iff, hrepeats]

lemma firstDuplicate?_variants_eq_none_iff :
    firstDuplicate? [] decl.variants = none ↔ decl.texts.Nodup := by
  simp [firstDuplicate?_eq_none_iff, texts]

lemma fallbackClashes_iff :
    decl.fallbackClashes safeCase fallback = true ↔ ∃ literal, fallback = .text literal ∧
      (∀ v ∈ decl.variants, v.name ≠ safeCase) ∧ ∃ v ∈ decl.variants, v.textValue = literal := by
  cases fallback with
  | integer n => simp [fallbackClashes]
  | text literal =>
    simp only [fallbackClashes, hasVariant, RawValue.text.injEq, exists_eq_left']
    simp

/-- The texts stay distinct with the fallback exactly if they are distinct and it does not
clash. -/
lemma nodup_texts_append_insertedText_iff :
    (decl.texts ++ decl.insertedText safeCase fallback).Nodup ↔
      decl.texts.Nodup ∧ decl.fallbackClashes safeCase fallback = false := by
  cases fallback with
  | integer n => simp [insertedText, fallbackClashes]
  | text literal =>
    by_cases hname : decl.hasVariant safeCase = true
    · simp [insertedText, fallbackClashes, hname, ← hasVariant_iff]
    · simp [insertedText, fallbackClashes, hname, ← hasVariant_iff, texts, List.nodup_append]

/-- The check reaches a verdict on every enum. -/
lemma verdict_validate (decl : EnumDecl) (kind : RawKind) (safeCase : String)
    (fallback : RawValue) :
    decl.Verdict kind safeCase fallback (decl.validate kind safeCase fallback) := by
  unfold validate
  cases hmisfit : decl.variants.find? fun w => !w.fits kind with
  | some v => exact .misshapen (find?_misfit_eq_some_iff.mp hmisfit)
  | none =>
    have hshape := find?_misfit_eq_none_iff.mp hmisfit
    cases kind with
    | integer => exact .valid hshape nofun
    | text =>
      cases hduplicate : firstDuplicate? [] decl.variants with
      | some v =>
        exact .duplicate hshape rfl (firstDuplicate?_variants_eq_some_iff.mp hduplicate)
      | none =>
        have hdistinct := firstDuplicate?_variants_eq_none_iff.mp hduplicate
        cases hclash : decl.fallbackClashes safeCase fallback with
        | true =>
          obtain ⟨literal, hliteral, hname, htext⟩ := fallbackClashes_iff.mp hclash
          exact .clash hshape rfl hdistinct hliteral hname htext
        | false =>
          exact .valid hshape fun _ =>
            nodup_texts_append_insertedText_iff.mpr ⟨hdistinct, hclash⟩

/-- There is no verdict but that of the check. -/
lemma Verdict.validate_eq {result : Except Diagnostic Unit}
    (h : decl.Verdict kind safeCase fallback result) :
    decl.validate kind safeCase fallback = result := by
  cases h with
  | misshapen h => simp only [validate, find?_misfit_eq_some_iff.mpr h]
  | duplicate hshape hkind h =>
    subst hkind
    simp only [validate, find?_misfit_eq_none_iff.mpr hshape,
      firstDuplicate?_variants_eq_some_iff.mpr h]
  | clash hshape hkind hdistinct hliteral hname h =>
    subst hkind
    have hclash := fallbackClashes_iff.mpr ⟨_, hliteral, hname, h⟩
    simp only [validate, find?_misfit_eq_none_iff.mpr hshape,
      firstDuplicate?_variants_eq_none_iff.mpr hdistinct, hclash, if_true]
  | valid hshape h =>
    have hfits : ∀ v ∈ decl.variants, v.fits kind = true := by
      intro v hv
      rw [← Bool.not_eq_false, Variant.fits_eq_false_iff]
      exact hshape v hv
    exact validate_eq_ok_iff.mpr
      ⟨hfits, fun hkind => nodup_texts_append_insertedText_iff.mp (h hkind)⟩

/-- The check of an enum reports the first variant of a wrong shape if there is one; else, in a
text enum, the first variant with the text of an earlier one; else the whole enum, if a fallback
with the text of a variant is going to be added; and nothing otherwise. So it accepts a text enum
exactly if all shapes are right and the texts are distinct, with that of such a fallback. -/
theorem validation_anchored_at_first_offender (decl : EnumDecl) (safeCase : String)
    (fallback : RawValue) :
    (∀ kind result, decl.validate kind safeCase fallback = result ↔
      decl.Verdict kind safeCase fallback result) ∧
    (decl.validate .text safeCase fallback = .ok () ↔
      decl.WellShaped .text ∧ (decl.texts ++ decl.insertedText safeCase fallback).Nodup) := by
  have hverdict (kind : RawKind) (result : Except Diagnostic Unit) :
      decl.validate kind safeCase fallback = result ↔
        decl.Verdict kind safeCase fallback result := by
    constructor
    · rintro rfl
      exact decl.verdict_validate kind safeCase fallback
    · exact Verdict.validate_eq
  refine ⟨hverdict, (hverdict _ _).trans ?_⟩
  constructor
  · rintro (_ | _ | _ | ⟨hshape, h⟩)
    exact ⟨hshape, h rfl⟩
  · rintro ⟨hshape, h⟩
    exact .valid hshape fun _ => h

end EnumDecl

end FallbackEnum
