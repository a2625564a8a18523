import FallbackEnum.Proofs.Lexemes
import Mathlib.Data.Nat.Digits.Defs

/-!
# Integer literals

The spellings of integers in source text: digits of one of four bases with underscores among
them, and a suffix. The digits run as far as they can, so a letter that is a digit of the base is
never part of the suffix, and decimal digits before an exponent are a fraction. The reader of
literals takes exactly these spellings for integers, and reads from them the number that the
digits denote.
-/

namespace FallbackEnum

namespace Literal

open Text (isIdentStart isIdentContinue)

/-! ### Grammar -/

/-- The character is the digit of a value, in either case. -/
def IsDigitOf (d : Nat) (c : Char) : Prop := c = Nat.digitChar d ∨ c = (Nat.digitChar d).toUpper

/-- Characters that spell digits of a base, the most significant one first, with underscores
among them. -/
inductive SpellsDigits (base : Nat) : List Char → List Nat → Prop where
  | nil : SpellsDigits base [] []
  | underscore {cs : List Char} {ds : List Nat} (h : SpellsDigits base cs ds) :
      SpellsDigits base ('_' :: cs) ds
  | digit {c : Char} {d : Nat} {cs : List Char} {ds : List Nat} (hd : d < base)
      (hc : IsDigitOf d c) (h : SpellsDigits base cs ds) : SpellsDigits base (c :: cs) (d :: ds)

/-- Digits that make a number: there is one of them, and no underscore stands before decimal
ones. -/
structure IsNumeral (base : Nat) (digits : List Char) (ds : List Nat) : Prop where
  spells : SpellsDigits base digits ds
  nonempty : ds ≠ []
  first : base = 10 → digits.head? ≠ some '_'

/-- What may follow the digits of a base: nothing that they run into. -/
def EndsDigits (base : Nat) (cs : List Char) : Prop :=
  ∀ c ∈ cs.head?, c ≠ '_' ∧ c.isDigit = false ∧ ∀ d < base, ¬ IsDigitOf d c

/-- The suffix of a literal: a name, or nothing. -/
structure IsSuffix (cs : List Char) : Prop where
  start : ∀ c ∈ cs.head?, isIdentStart c = true
  continued : ∀ c ∈ cs.tail, isIdentContinue c = true

/-- The exponent of a fraction: a letter, decimal digits and a suffix. -/
inductive IsExponent : List Char → Prop where
  | intro {e : Char} {digits suffix : List Char} {ds : List Nat} (he : e = 'e' ∨ e = 'E')
      (hdigits : SpellsDigits 10 digits ds) (hsome : ds ≠ []) (hends : EndsDigits 10 suffix)
      (hsuffix : IsSuffix suffix) : IsExponent (e :: (digits ++ suffix))

/-- The marks of the bases other than ten. -/
def baseMarks : List (List Char × Nat) := [(['0', 'x'], 16), (['0', 'o'], 8), (['0', 'b'], 2)]

/-- The spellings of an integer in one of the four bases. -/
inductive SpellsInteger : List Char → Nat → Prop where
  | decimal {digits suffix : List Char} {ds : List Nat} (hdigits : IsNumeral 10 digits ds)
      (hmark : ∀ entry ∈ baseMarks, ¬ entry.1 <+: digits ++ suffix)
      (hends : EndsDigits 10 suffix) (hsuffix : IsSuffix suffix)
      (hexponent : ¬ IsExponent suffix) :
      SpellsInteger (digits ++ suffix) (Nat.ofDigits 10 ds.reverse)
  | marked {mark : List Char} {base : Nat} {digits suffix : List Char} {ds : List Nat}
      (hmark : (mark, base) ∈ baseMarks) (hdigits : IsNumeral base digits ds)
      (hends : EndsDigits base suffix) (hsuffix : IsSuffix suffix) :
      SpellsInteger (mark ++ (digits ++ suffix)) (Nat.ofDigits base ds.reverse)

/-! ### Digits -/

lemma toNat_lt_of_hexDigit? {c : Char} {d : Nat} (h : hexDigit? c = some d) : c.toNat < 128 := by
  have hle : ∀ e : Char, e.toNat < 128 → c ≤ e → c.toNat < 128 := by
    intro e he hce
    exact Nat.lt_of_le_of_lt (UInt32.le_iff_toNat_le.mp hce) he
  unfold hexDigit? at h
  split_ifs at h with hdecimal hlower hupper
  · simp only [Bool.and_eq_true, decide_eq_true_eq] at hdecimal
    exact hle '9' (by decide) hdecimal.2
  · simp only [Bool.and_eq_true, decide_eq_true_eq] at hlower
    exact hle 'f' (by decide) hlower.2
  · simp only [Bool.and_eq_true, decide_eq_true_eq] at hupper
    exact hle 'F' (by decide) hupper.2

lemma hexDigit?_eq_some_iff {c : Char} {d : Nat} :
    hexDigit? c = some d ↔ d < 16 ∧ IsDigitOf d c := by
  constructor
  · intro h
    have hall : ∀ n < 128, ∀ d ∈ hexDigit? (Char.ofNat n), d < 16 ∧
        (Char.ofNat n = Nat.digitChar d ∨ Char.ofNat n = (Nat.digitChar d).toUpper) := by decide
    have hdigit := hall c.toNat (toNat_lt_of_hexDigit? h)
    rw [Char.ofNat_toNat] at hdigit
    exact hdigit d h
  · rintro ⟨hd, hc⟩
    have hupper : ∀ d : Fin 16, hexDigit? (Nat.digitChar d).toUpper = some d.val := by decide
    rcases hc with rfl | rfl
    · exact hexDigit?_digitChar hd
    · exact hupper ⟨d, hd⟩

lemma isDigit_iff {c : Char} : c.isDigit = true ↔ ∃ d < 10, IsDigitOf d c := by
  constructor
  · intro h
    have hle : c.toNat ≤ 57 := by
      simp only [Char.isDigit, Bool.and_eq_true, decide_eq_true_eq] at h
      exact UInt32.le_iff_toNat_le.mp h.2
    have hall : ∀ n < 58, (Char.ofNat n).isDigit = true → ∃ d < 10,
        Char.ofNat n = Nat.digitChar d ∨ Char.ofNat n = (Nat.digitChar d).toUpper := by decide
    have hdigit := hall c.toNat (by omega)
    rw [Char.ofNat_toNat] at hdigit
    exact hdigit h
  · rintro ⟨d, hd, hc⟩
    have hall : ∀ d : Fin 10,
        (Nat.digitChar d).isDigit = true ∧ (Nat.digitChar d).toUpper.isDigit = true := by decide
    obtain ⟨hplain, hupper⟩ := hall ⟨d, hd⟩
    rcases hc with rfl | rfl
    · exact hplain
    · exact hupper

lemma IsDigitOf.ne_underscore {c : Char} {d : Nat} (hd : d < 16) (hc : IsDigitOf d c) :
    c ≠ '_' := by
  rintro rfl
  have hdigit := hexDigit?_eq_some_iff.mpr ⟨hd, hc⟩
  have hnone : hexDigit? '_' = none := by decide
  rw [hnone] at hdigit
  cases hdigit

/-- Digits, the most significant one first, denote what they denote in reverse, the least one
first. -/
lemma foldl_digits (base : Nat) (ds : List Nat) :
    ds.foldl (fun n d => n * base + d) 0 = Nat.ofDigits base ds.reverse := by
  rw [Nat.ofDigits_eq_foldr, List.foldr_reverse]
  refine congrArg (List.foldl · 0 ds) ?_
  funext n d
  rw [Nat.cast_id, Nat.add_comm, Nat.mul_comm]

/-! ### Reading digits -/

section

variable {base : Nat}

lemma readDigits?_underscore {value : Option Nat} (h : base = 10 → value ≠ none)
    (cs : List Char) : readDigits? base value ('_' :: cs) = readDigits? base value cs := by
  have hallowed : (decide (base = 10) && value.isNone) = false := by
    cases value with
    | none => simpa using h
    | some n => simp
  rw [readDigits?, if_pos rfl, hallowed, if_neg Bool.false_ne_true]

lemma readDigits?_digit (hbase : base ≤ 16) {c : Char} {d : Nat} (hd : d < base)
    (hc : IsDigitOf d c) (value : Option Nat) (cs : List Char) :
    readDigits? base value (c :: cs) =
      readDigits? base (some (value.getD 0 * base + d)) cs := by
  have hdigit : hexDigit? c = some d := hexDigit?_eq_some_iff.mpr ⟨by omega, hc⟩
  rw [readDigits?, if_neg (hc.ne_underscore (by omega)), hdigit]
  simp only [if_pos hd]

lemma readDigits?_ends {cs : List Char} (h : EndsDigits base cs) (n : Nat) :
    readDigits? base (some n) cs = some (n, cs) := by
  cases cs with
  | nil => rfl
  | cons c cs =>
    obtain ⟨hunderscore, hdigit, hother⟩ := h c rfl
    rw [readDigits?, if_neg hunderscore]
    cases hhex : hexDigit? c with
    | none => rfl
    | some d =>
      have hd : ¬ d < base := fun hd => hother d hd (hexDigit?_eq_some_iff.mp hhex).2
      simp [hd, hdigit]

/-- The text begins with digits that continue a number, up to where they end. -/
def ContinuesNumber (base : Nat) (value : Option Nat) (cs : List Char) (n : Nat)
    (rest : List Char) : Prop :=
  ∃ digits ds, cs = digits ++ rest ∧ SpellsDigits base digits ds ∧ EndsDigits base rest ∧
    (value = none → IsNumeral base digits ds) ∧
    n = ds.foldl (fun n d => n * base + d) (value.getD 0)

lemma readDigits?_of_spellsDigits (hbase : base ≤ 16) {digits rest : List Char} {ds : List Nat}
    (h : SpellsDigits base digits ds) (hrest : EndsDigits base rest) (value : Option Nat)
    (hnumeral : value = none → IsNumeral base digits ds) :
    readDigits? base value (digits ++ rest) =
      some (ds.foldl (fun n d => n * base + d) (value.getD 0), rest) := by
  induction h generalizing value with
  | nil =>
    cases value with
    | none => exact absurd rfl (hnumeral rfl).nonempty
    | some n => exact readDigits?_ends hrest n
  | underscore hdigits ih =>
    have hallowed : base = 10 → value ≠ none := by
      intro hten hnone
      exact (hnumeral hnone).first hten rfl
    rw [List.cons_append, readDigits?_underscore hallowed]
    apply ih
    intro hnone
    exact ⟨hdigits, (hnumeral hnone).nonempty, fun hten => absurd hnone (hallowed hten)⟩
  | digit hd hc _ ih =>
    rw [List.cons_append, readDigits?_digit hbase hd hc]
    exact ih (some _) nofun

/-- A digit that is none of the base, and no digit at all, ends the digits of the base. -/
lemma endsDigits_of_hexDigit? {c : Char} (hunderscore : c ≠ '_') (hdigit : c.isDigit = false)
    (hbase : base ≤ 16) (h : ∀ d < base, hexDigit? c ≠ some d) (cs : List Char) :
    EndsDigits base (c :: cs) := by
  intro e he
  cases he
  refine ⟨hunderscore, hdigit, ?_⟩
  intro d hd hc
  exact h d hd (hexDigit?_eq_some_iff.mpr ⟨by omega, hc⟩)

lemma isDigit_of_hexDigit?_eq_none {c : Char} (h : hexDigit? c = none) : c.isDigit = false := by
  rw [← Bool.not_eq_true, isDigit_iff]
  rintro ⟨d, hd, hc⟩
  have hsome := hexDigit?_eq_some_iff.mpr ⟨by omega, hc⟩
  rw [h] at hsome
  cases hsome

lemma continuesNumber_of_readDigits? (hbase : base ≤ 16) {cs rest : List Char}
    {value : Option Nat} {n : Nat} (h : readDigits? base value cs = some (n, rest)) :
    ContinuesNumber base value cs n rest := by
  -- where the digits end, the number so far is handed back
  have hstop : ∀ {cs : List Char} {value : Option Nat}, EndsDigits base cs →
      value.map (fun n => (n, cs)) = some (n, rest) → ContinuesNumber base value cs n rest := by
    intro cs value hends hvalue
    cases value with
    | none => cases hvalue
    | some n =>
      cases hvalue
      exact ⟨[], [], rfl, .nil, hends, by simp, rfl⟩
  induction cs generalizing value with
  | nil => exact hstop (by simp [EndsDigits]) h
  | cons c cs ih =>
    rw [readDigits?] at h
    by_cases hunderscore : c = '_'
    · subst hunderscore
      rw [if_pos rfl] at h
      split_ifs at h with hallowed
      obtain ⟨digits, ds, rfl, hdigits, hends, hnumeral, hn⟩ := ih h
      refine ⟨'_' :: digits, ds, rfl, .underscore hdigits, hends, ?_, hn⟩
      intro hnone
      refine ⟨.underscore hdigits, (hnumeral hnone).nonempty, ?_⟩
      rintro rfl
      simp [hnone] at hallowed
    · rw [if_neg hunderscore] at h
      cases hhex : hexDigit? c with
      | none =>
        rw [hhex] at h
        refine hstop (endsDigits_of_hexDigit? hunderscore ?_ hbase ?_ cs) h
        · exact isDigit_of_hexDigit?_eq_none hhex
        · simp [hhex]
      | some d =>
        obtain ⟨-, hc⟩ := hexDigit?_eq_some_iff.mp hhex
        simp only [hhex] at h
        split_ifs at h with hd hdecimal
        · obtain ⟨digits, ds, rfl, hdigits, hends, -, hn⟩ := ih h
          refine ⟨c :: digits, d :: ds, rfl, .digit hd hc hdigits, hends, ?_, hn⟩
          intro _
          refine ⟨.digit hd hc hdigits, List.cons_ne_nil d ds, ?_⟩
          intro _ hhead
          exact hunderscore (Option.some.inj hhead)
        · refine hstop (endsDigits_of_hexDigit? hunderscore ?_ hbase ?_ cs) h
          · simpa using hdecimal
          · rintro other hother hsame
            rw [hhex, Option.some.injEq] at hsame
            exact hd (hsame ▸ hother)

/-- The reader takes all digits, and gives the number that they continue. -/
lemma readDigits?_eq_some_iff (hbase : base ≤ 16) {cs rest : List Char} {value : Option Nat}
    {n : Nat} :
    readDigits? base value cs = some (n, rest) ↔ ContinuesNumber base value cs n rest := by
  constructor
  · exact continuesNumber_of_readDigits? hbase
  · rintro ⟨digits, ds, rfl, hdigits, hrest, hnumeral, rfl⟩
    exact readDigits?_of_spellsDigits hbase hdigits hrest value hnumeral

/-- A numeral is read as the number that its digits denote. -/
lemma readDigits?_none_eq_some_iff (hbase : base ≤ 16) {cs rest : List Char} {n : Nat} :
    readDigits? base none cs = some (n, rest) ↔
      ∃ digits ds, cs = digits ++ rest ∧ IsNumeral base digits ds ∧ EndsDigits base rest ∧
        n = Nat.ofDigits base ds.reverse := by
  rw [readDigits?_eq_some_iff hbase]
  constructor
  · rintro ⟨digits, ds, hcs, -, hends, hnumeral, hn⟩
    exact ⟨digits, ds, hcs, hnumeral rfl, hends, hn.trans (foldl_digits base ds)⟩
  · rintro ⟨digits, ds, hcs, hnumeral, hends, hn⟩
    exact ⟨digits, ds, hcs, hnumeral.spells, hends, fun _ => hnumeral,
      hn.trans (foldl_digits base ds).symm⟩

end

/-! ### Suffixes -/

lemma EndsDigits.append {base : Nat} (hbase : base ≤ 16) {suffix rest : List Char}
    (h : EndsDigits base suffix) (hrest : AtBoundary rest) :
    EndsDigits base (suffix ++ rest) := by
  cases suffix with
  | cons c suffix => exact h
  | nil =>
    intro c hc
    have hall : ∀ c ∈ boundaries, c ≠ '_' ∧ c.isDigit = false ∧ hexDigit? c = none :=
      forall_mem_of_all (by decide)
    obtain ⟨hunderscore, hdigit, hhex⟩ := hall c (hrest c hc)
    refine ⟨hunderscore, hdigit, ?_⟩
    intro d hd hcd
    have hsome := hexDigit?_eq_some_iff.mpr ⟨by omega, hcd⟩
    rw [hhex] at hsome
    cases hsome

lemma endNumber?_append {suffix rest : List Char} (h : IsSuffix suffix)
    (hrest : AtBoundary rest) : endNumber? (suffix ++ rest) = some rest := by
  cases suffix with
  | nil => exact hrest.endNumber?
  | cons c ds =>
    have hds : ∀ d ∈ ds, isIdentContinue d = true := h.continued
    have hsplit := Lexeme.splitIdent?_append (h.start c rfl) hds hrest
    have hdrop : dropSuffix (c :: (ds ++ rest)) = rest := by rw [dropSuffix, hsplit]
    rw [List.cons_append, endNumber?, hdrop]
    cases rest with
    | nil => rfl
    | cons e rest => simp [hrest.isIdentContinue e rfl]

/-- Characters of a name are a suffix if a number can end with them. -/
lemma isSuffix_of_endNumber?_append {cs rest after : List Char}
    (hcs : ∀ c ∈ cs, isIdentContinue c = true) (h : endNumber? (cs ++ rest) = some after) :
    IsSuffix cs := by
  cases cs with
  | nil => exact ⟨nofun, nofun⟩
  | cons c cs =>
    refine ⟨?_, fun d hd => hcs d (List.mem_cons_of_mem c hd)⟩
    intro d hd
    cases hd
    by_contra hstart
    have hdrop : dropSuffix (c :: (cs ++ rest)) = c :: (cs ++ rest) := by
      simp [dropSuffix, splitIdent?, hstart]
    rw [List.cons_append, endNumber?, hdrop] at h
    simp [hcs c List.mem_cons_self] at h

lemma isSuffix_of_endNumber? {cs : List Char} (h : endNumber? cs = some []) : IsSuffix cs := by
  unfold endNumber? at h
  split at h
  · rename_i hdrop
    unfold dropSuffix at hdrop
    split at hdrop
    · rename_i name rest hsplit
      subst hdrop
      obtain ⟨-, c, ds, rfl, hc, hds⟩ := Lexeme.splitIdent?_eq_some_nil hsplit
      refine ⟨?_, hds⟩
      intro d hd
      cases hd
      exact hc
    · subst hdrop
      exact ⟨nofun, nofun⟩
  · split_ifs at h
    cases h

/-! ### Exponents -/

lemma SpellsDigits.isDigitOrUnderscore {cs : List Char} {ds : List Nat}
    (h : SpellsDigits 10 cs ds) : ∀ c ∈ cs, Literal.isDigitOrUnderscore c = true := by
  induction h with
  | nil => nofun
  | underscore _ ih => simpa [Literal.isDigitOrUnderscore] using ih
  | digit hd hc _ ih =>
    have hdigit := isDigit_iff.mpr ⟨_, hd, hc⟩
    simpa [Literal.isDigitOrUnderscore, hdigit] using ih

lemma exists_spellsDigits {cs : List Char} (h : ∀ c ∈ cs, isDigitOrUnderscore c = true) :
    ∃ ds, SpellsDigits 10 cs ds := by
  induction cs with
  | nil => exact ⟨[], .nil⟩
  | cons c cs ih =>
    obtain ⟨ds, hds⟩ := ih fun d hd => h d (List.mem_cons_of_mem c hd)
    have hc := h c List.mem_cons_self
    rw [isDigitOrUnderscore, Bool.or_eq_true, decide_eq_true_eq] at hc
    rcases hc with hdigit | rfl
    · obtain ⟨d, hd, hc⟩ := isDigit_iff.mp hdigit
      exact ⟨d :: ds, .digit hd hc hds⟩
    · exact ⟨ds, .underscore hds⟩

lemma endsDigits_ten_iff {cs : List Char} :
    EndsDigits 10 cs ↔ ∀ c ∈ cs.head?, isDigitOrUnderscore c = false := by
  refine forall₂_congr fun c _ => ?_
  rw [isDigitOrUnderscore, Bool.or_eq_false_iff, decide_eq_false_iff_not]
  constructor
  · rintro ⟨hunderscore, hdigit, -⟩
    exact ⟨hdigit, hunderscore⟩
  · rintro ⟨hdigit, hunderscore⟩
    refine ⟨hunderscore, hdigit, ?_⟩
    intro d hd hc
    exact Bool.false_ne_true (hdigit.symm.trans (isDigit_iff.mpr ⟨d, hd, hc⟩))

lemma skipExponent?_underscore (cs : List Char) :
    skipExponent? ('_' :: cs) = skipExponent? cs := by
  simp [skipExponent?]

/-- An exponent is its digits, if there are some among the underscores. -/
lemma skipExponent?_append {digits rest : List Char} {ds : List Nat}
    (hdigits : SpellsDigits 10 digits ds) (hrest : EndsDigits 10 rest)
    (hsign : ∀ c ∈ rest.head?, c ≠ '+' ∧ c ≠ '-') :
    skipExponent? (digits ++ rest) = if ds = [] then none else some rest := by
  induction hdigits with
  | nil =>
    have hstop := endsDigits_ten_iff.mp hrest
    cases rest with
    | nil => rfl
    | cons c rest =>
      have hc := hstop c rfl
      obtain ⟨hplus, hminus⟩ := hsign c rfl
      obtain ⟨hunderscore, -, -⟩ := hrest c rfl
      simp [skipExponent?, hunderscore, hplus, hminus, hc]
  | underscore _ ih => rw [List.cons_append, skipExponent?_underscore, ih]
  | @digit c d cs ds hd hc hdigits _ =>
    have hdigit := isDigit_iff.mpr ⟨d, hd, hc⟩
    have hunderscore : c ≠ '_' := hc.ne_underscore (by omega)
    have hplus : c ≠ '+' := ne_of_isDigit hdigit rfl
    have hminus : c ≠ '-' := ne_of_isDigit hdigit rfl
    obtain ⟨htake, hdrop⟩ := Json.span_append (hdigits.digit hd hc).isDigitOrUnderscore
      (endsDigits_ten_iff.mp hrest)
    rw [List.cons_append] at htake hdrop ⊢
    simp [skipExponent?, hunderscore, hplus, hminus, htake, hdrop, hdigit]

lemma IsNumeral.exists_isDigit {digits : List Char} {ds : List Nat}
    (h : IsNumeral 10 digits ds) :
    ∃ c cs, digits = c :: cs ∧ c.isDigit = true := by
  obtain ⟨hspells, hnonempty, hfirst⟩ := h
  cases hspells with
  | nil => exact absurd rfl hnonempty
  | underscore _ => exact absurd rfl (hfirst rfl)
  | digit hd hc _ => exact ⟨_, _, rfl, isDigit_iff.mpr ⟨_, hd, hc⟩⟩

/-- Whether decimal digits belong to a fraction shows behind them. -/
lemma skipFraction?_append {digits rest : List Char} {ds : List Nat}
    (hdigits : IsNumeral 10 digits ds) (hrest : EndsDigits 10 rest)
    (hpoint : rest.head? ≠ some '.') :
    skipFraction? (digits ++ rest) =
      match rest with
      | e :: exponent => if e = 'e' || e = 'E' then skipExponent? exponent else none
      | [] => none := by
  obtain ⟨-, hwhole⟩ := Json.span_append hdigits.spells.isDigitOrUnderscore
    (endsDigits_ten_iff.mp hrest)
  obtain ⟨c, cs, rfl, hc⟩ := hdigits.exists_isDigit
  rw [List.cons_append] at hwhole ⊢
  simp only [skipFraction?, hwhole, hc, Bool.not_true, Bool.false_eq_true, if_false]
  cases rest with
  | nil => rfl
  | cons e rest =>
    split
    · rename_i heq
      cases heq
      exact absurd rfl hpoint
    · rename_i heq
      cases heq
      rfl
    · rename_i heq
      cases heq

lemma ne_sign_of_append {cs rest : List Char} (hcs : ∀ c ∈ cs, isIdentContinue c = true)
    (hrest : AtBoundary rest) : ∀ c ∈ (cs ++ rest).head?, c ≠ '+' ∧ c ≠ '-' := by
  intro c hc
  cases cs with
  | nil =>
    have hall : ∀ c ∈ boundaries, c ≠ '+' ∧ c ≠ '-' := forall_mem_of_all (by decide)
    exact hall c (hrest c hc)
  | cons d cs =>
    cases hc
    have hcontinue := hcs c List.mem_cons_self
    constructor <;> rintro rfl <;> exact absurd hcontinue (by decide)

/-- A letter is that of an exponent if a number can end behind the digits that follow it. -/
lemma isExponent_of_skipExponent? {e : Char} {cs rest after : List Char} (he : e = 'e' ∨ e = 'E')
    (hcs : ∀ c ∈ cs, isIdentContinue c = true) (hrest : AtBoundary rest)
    (h : (skipExponent? (cs ++ rest)).bind endNumber? = some after) : IsExponent (e :: cs) := by
  obtain ⟨digits, tail, rfl, hdigits, htail⟩ : ∃ digits tail, cs = digits ++ tail ∧
      (∀ c ∈ digits, isDigitOrUnderscore c = true) ∧
      ∀ c ∈ tail.head?, isDigitOrUnderscore c = false := by
    refine ⟨_, _, (List.takeWhile_append_dropWhile (p := isDigitOrUnderscore)).symm, ?_, ?_⟩
    · exact fun c hc => List.mem_takeWhile_imp hc
    · intro c hc
      have hnot := List.head?_dropWhile_not isDigitOrUnderscore cs
      rw [hc] at hnot
      simpa using hnot
  obtain ⟨ds, hspells⟩ := exists_spellsDigits hdigits
  have hends : EndsDigits 10 tail := endsDigits_ten_iff.mpr htail
  have hcontinued : ∀ c ∈ tail, isIdentContinue c = true :=
    fun c hc => hcs c (List.mem_append_right digits hc)
  rw [List.append_assoc, skipExponent?_append hspells (hends.append (by omega) hrest)
    (ne_sign_of_append hcontinued hrest)] at h
  split_ifs at h with hempty
  · cases h
  · exact .intro he hspells hempty hends (isSuffix_of_endNumber?_append hcontinued h)

lemma head?_append_ne_point {suffix rest : List Char} (hsuffix : IsSuffix suffix)
    (hrest : AtBoundary rest) : (suffix ++ rest).head? ≠ some '.' := by
  intro h
  cases suffix with
  | nil =>
    have hpoint : '.' ∉ boundaries := by decide
    exact hpoint (hrest '.' h)
  | cons c suffix =>
    exact Lexeme.ne_of_isIdentStart (hsuffix.start c rfl) rfl (Option.some.inj h)

/-- Decimal digits before a suffix that is no exponent are no fraction. -/
lemma skipFraction?_bind_endNumber?_eq_none {digits suffix rest : List Char} {ds : List Nat}
    (hdigits : IsNumeral 10 digits ds) (hends : EndsDigits 10 suffix) (hsuffix : IsSuffix suffix)
    (hexponent : ¬ IsExponent suffix) (hrest : AtBoundary rest) :
    (skipFraction? (digits ++ (suffix ++ rest))).bind endNumber? = none := by
  rw [skipFraction?_append hdigits (hends.append (by omega) hrest)
    (head?_append_ne_point hsuffix hrest)]
  cases suffix with
  | nil =>
    cases rest with
    | nil => rfl
    | cons c rest =>
      have hall : ∀ c ∈ boundaries, c ≠ 'e' ∧ c ≠ 'E' := forall_mem_of_all (by decide)
      obtain ⟨he, hE⟩ := hall c (hrest c rfl)
      simp [he, hE]
  | cons e suffix =>
    simp only [List.cons_append]
    split_ifs with he
    · rw [Option.eq_none_iff_forall_ne_some]
      intro after hafter
      apply hexponent
      exact isExponent_of_skipExponent? (by simpa using he) hsuffix.continued hrest hafter
    · rfl

/-- Decimal digits before an exponent are a fraction, to its end. -/
lemma skipFraction?_bind_endNumber?_of_isExponent {digits exponent : List Char} {ds : List Nat}
    (hdigits : IsNumeral 10 digits ds) (hends : EndsDigits 10 exponent)
    (hexponent : IsExponent exponent) :
    (skipFraction? (digits ++ exponent)).bind endNumber? = some [] := by
  obtain @⟨e, marks, suffix, ms, he, hmarks, hsomeMarks, hstop, hsuffix⟩ := hexponent
  have hpoint : (e :: (marks ++ suffix)).head? ≠ some '.' := by
    rcases he with rfl | rfl <;> simp
  have hletter : (decide (e = 'e') || decide (e = 'E')) = true := by simpa using he
  have hsign : ∀ c ∈ suffix.head?, c ≠ '+' ∧ c ≠ '-' := by
    intro c hc
    have hstart := hsuffix.start c hc
    exact ⟨Lexeme.ne_of_isIdentStart hstart rfl, Lexeme.ne_of_isIdentStart hstart rfl⟩
  have hend := endNumber?_append hsuffix atBoundary_nil
  rw [List.append_nil] at hend
  rw [skipFraction?_append hdigits hends hpoint]
  simp only [hletter, if_true]
  rw [skipExponent?_append hmarks hstop hsign, if_neg hsomeMarks, Option.bind_some, hend]

/-! ### Reading integers -/

lemma splitBase_marked {mark : List Char} {base : Nat} (h : (mark, base) ∈ baseMarks)
    (cs : List Char) : splitBase (mark ++ cs) = (base, cs) := by
  simp only [baseMarks, List.mem_cons, Prod.mk.injEq, List.not_mem_nil, or_false] at h
  rcases h with ⟨rfl, rfl⟩ | ⟨rfl, rfl⟩ | ⟨rfl, rfl⟩ <;> rfl

lemma splitBase_unmarked {cs : List Char} (h : ∀ entry ∈ baseMarks, ¬ entry.1 <+: cs) :
    splitBase cs = (10, cs) := by
  unfold splitBase
  split
  · exact absurd (List.prefix_append ['0', 'x'] _) (h (['0', 'x'], 16) (by decide))
  · exact absurd (List.prefix_append ['0', 'o'] _) (h (['0', 'o'], 8) (by decide))
  · exact absurd (List.prefix_append ['0', 'b'] _) (h (['0', 'b'], 2) (by decide))
  · rfl

lemma base_le_of_mem_baseMarks {mark : List Char} {base : Nat} (h : (mark, base) ∈ baseMarks) :
    base ≤ 16 := by
  have hall : ∀ entry ∈ baseMarks, entry.2 ≤ 16 := by decide
  exact hall _ h

lemma exists_of_mem_baseMarks {mark : List Char} {base : Nat} (h : (mark, base) ∈ baseMarks) :
    ∃ c, mark = ['0', c] ∧ c ∉ boundaries := by
  simp only [baseMarks, List.mem_cons, Prod.mk.injEq, List.not_mem_nil, or_false] at h
  rcases h with ⟨rfl, -⟩ | ⟨rfl, -⟩ | ⟨rfl, -⟩
  · exact ⟨'x', rfl, by decide⟩
  · exact ⟨'o', rfl, by decide⟩
  · exact ⟨'b', rfl, by decide⟩

/-- A boundary does not complete the mark of a base. -/
lemma unmarked_append {cs rest : List Char} (hne : cs ≠ [])
    (h : ∀ entry ∈ baseMarks, ¬ entry.1 <+: cs) (hrest : AtBoundary rest) :
    ∀ entry ∈ baseMarks, ¬ entry.1 <+: cs ++ rest := by
  rintro ⟨mark, base⟩ hmark hprefix
  obtain ⟨c, rfl, hc⟩ := exists_of_mem_baseMarks hmark
  obtain ⟨after, hafter⟩ := hprefix
  match cs with
  | [] => exact hne rfl
  | [d] =>
    have htail : c :: after = rest := (List.cons.inj hafter).2
    rw [← htail] at hrest
    exact hc (hrest c rfl)
  | d :: e :: cs =>
    apply h _ hmark
    obtain ⟨rfl, htail⟩ := List.cons.inj hafter
    obtain ⟨rfl, -⟩ := List.cons.inj htail
    exact ⟨cs, rfl⟩

lemma skipFraction?_marked {mark : List Char} {base : Nat} (h : (mark, base) ∈ baseMarks)
    (cs : List Char) : skipFraction? (mark ++ cs) = none := by
  simp only [baseMarks, List.mem_cons, Prod.mk.injEq, List.not_mem_nil, or_false] at h
  rcases h with ⟨rfl, rfl⟩ | ⟨rfl, rfl⟩ | ⟨rfl, rfl⟩ <;> rfl

lemma readText?_ne_integer {cs rest : List Char} {m : Nat} :
    readText? cs ≠ some (.integer m, rest) := by
  unfold readText?
  split <;> simp

/-- A literal is an integer if it begins with a digit, is no fraction, and reads as an
integer. -/
lemma read?_eq_integer_iff {cs rest : List Char} {m : Nat} :
    read? cs = some (.integer m, rest) ↔
      (∃ c ∈ cs.head?, c.isDigit = true) ∧ (skipFraction? cs).bind endNumber? = none ∧
        readInteger? cs = some (m, rest) := by
  by_cases hdigit : ∃ c ∈ cs.head?, c.isDigit = true
  · obtain ⟨c, hc, hisDigit⟩ := hdigit
    obtain ⟨cs, rfl⟩ := List.head?_eq_some_iff.mp hc
    rw [read?_of_isDigit hisDigit]
    cases hfraction : (skipFraction? (c :: cs)).bind endNumber? with
    | some after => simp
    | none => simp [hisDigit]
  · simp only [hdigit, false_and, iff_false]
    intro h
    unfold read? at h
    rw [Option.or_eq_some_iff] at h
    rcases h with h | ⟨-, h⟩
    · exact readText?_ne_integer h
    · split at h
      · simp at h
      · simp at h
      · rename_i c _ _ _
        have hc : c.isDigit = false := by simpa using hdigit
        simp [hc] at h
      · cases h

lemma readInteger?_eq_some_iff {cs rest digits : List Char} {base m : Nat}
    (hsplit : splitBase cs = (base, digits)) :
    readInteger? cs = some (m, rest) ↔
      ∃ after, readDigits? base none digits = some (m, after) ∧
        endNumber? after = some rest := by
  rw [readInteger?, hsplit]
  dsimp only
  cases hread : readDigits? base none digits with
  | none => simp
  | some found =>
    obtain ⟨n, after⟩ := found
    simp only [Option.map_eq_some_iff, Option.some.injEq, Prod.mk.injEq]
    constructor
    · rintro ⟨_, hend, rfl, rfl⟩
      exact ⟨after, ⟨rfl, rfl⟩, hend⟩
    · rintro ⟨_, ⟨rfl, rfl⟩, hend⟩
      exact ⟨rest, hend, rfl, rfl⟩

/-- The spelling of an integer, before a boundary, is read as the integer that it denotes. -/
theorem read?_of_spellsInteger {cs rest : List Char} {m : Nat} (h : SpellsInteger cs m)
    (hrest : AtBoundary rest) : read? (cs ++ rest) = some (.integer m, rest) := by
  rw [read?_eq_integer_iff]
  cases h with
  | @decimal digits suffix ds hdigits hmark hends hsuffix hexponent =>
    obtain ⟨c, cs, hcons, hc⟩ := hdigits.exists_isDigit
    have hne : digits ++ suffix ≠ [] := by simp [hcons]
    refine ⟨⟨c, by simp [hcons], hc⟩, ?_, ?_⟩
    · rw [List.append_assoc]
      exact skipFraction?_bind_endNumber?_eq_none hdigits hends hsuffix hexponent hrest
    · rw [readInteger?_eq_some_iff (splitBase_unmarked (unmarked_append hne hmark hrest)),
        List.append_assoc]
      refine ⟨suffix ++ rest, ?_, endNumber?_append hsuffix hrest⟩
      rw [readDigits?_none_eq_some_iff (by omega)]
      exact ⟨digits, ds, rfl, hdigits, hends.append (by omega) hrest, rfl⟩
  | @marked mark base digits suffix ds hmark hdigits hends hsuffix =>
    obtain ⟨c, hzero, -⟩ := exists_of_mem_baseMarks hmark
    have hbase := base_le_of_mem_baseMarks hmark
    rw [List.append_assoc, List.append_assoc]
    refine ⟨⟨'0', by simp [hzero], rfl⟩, ?_, ?_⟩
    · rw [skipFraction?_marked hmark]
      rfl
    · rw [readInteger?_eq_some_iff (splitBase_marked hmark _)]
      refine ⟨suffix ++ rest, ?_, endNumber?_append hsuffix hrest⟩
      rw [readDigits?_none_eq_some_iff hbase]
      exact ⟨digits, ds, rfl, hdigits, hends.append hbase hrest, rfl⟩

/-- A literal that is read as an integer, to its end, is the spelling of that integer. -/
theorem spellsInteger_of_read? {cs : List Char} {m : Nat}
    (h : read? cs = some (.integer m, [])) : SpellsInteger cs m := by
  obtain ⟨-, hfraction, hinteger⟩ := read?_eq_integer_iff.mp h
  by_cases hmarked : ∃ entry ∈ baseMarks, entry.1 <+: cs
  · obtain ⟨⟨mark, base⟩, hmark, body, rfl⟩ := hmarked
    obtain ⟨suffix, hread, hend⟩ :=
      (readInteger?_eq_some_iff (splitBase_marked hmark body)).mp hinteger
    obtain ⟨digits, ds, rfl, hdigits, hends, rfl⟩ :=
      (readDigits?_none_eq_some_iff (base_le_of_mem_baseMarks hmark)).mp hread
    exact .marked hmark hdigits hends (isSuffix_of_endNumber? hend)
  · have hunmarked : ∀ entry ∈ baseMarks, ¬ entry.1 <+: cs := by
      intro entry hentry hprefix
      exact hmarked ⟨entry, hentry, hprefix⟩
    obtain ⟨suffix, hread, hend⟩ :=
      (readInteger?_eq_some_iff (splitBase_unmarked hunmarked)).mp hinteger
    obtain ⟨digits, ds, rfl, hdigits, hends, rfl⟩ :=
      (readDigits?_none_eq_some_iff (by omega)).mp hread
    have hexponent : ¬ IsExponent suffix := by
      intro hexponent
      rw [skipFraction?_bind_endNumber?_of_isExponent hdigits hends hexponent] at hfraction
      cases hfraction
    exact .decimal hdigits hunmarked hends (isSuffix_of_endNumber? hend) hexponent

/-- Exactly the spellings of integers are read as integers. -/
theorem read?_eq_integer_iff_spellsInteger {cs : List Char} {m : Nat} :
    read? cs = some (.integer m, []) ↔ SpellsInteger cs m := by
  constructor
  · exact spellsInteger_of_read?
  · intro h
    have hread := read?_of_spellsInteger h atBoundary_nil
    rwa [List.append_nil] at hread

lemma SpellsInteger.value_eq {spelling : String} {m : Nat}
    (h : SpellsInteger spelling.toList m) : value spelling = .integer m := by
  simp only [value, read?_eq_integer_iff_spellsInteger.mpr h]

end Literal

end FallbackEnum
