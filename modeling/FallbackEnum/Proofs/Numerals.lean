import FallbackEnum.Numbering
import FallbackEnum.RawValue
import Mathlib.Data.List.TakeWhile
import Mathlib.Tactic.Lemma
import Mathlib.Tactic.SplitIfs

/-!
# Numerals read back

The numeral that is written for a number denotes that number, alone and before a boundary of
printed code: it is neither a text nor a fraction, and its digits are read to their end. So the
code of an integer, a numeral behind an optional sign, has the integer as its value, down to the
least one.
-/

namespace FallbackEnum

namespace Literal

/-! ### Boundaries -/

/-- A class of finitely many characters is checked one by one. -/
lemma forall_mem_of_all {p : Char → Prop} [DecidablePred p] {cs : List Char}
    (h : (cs.all fun c => p c) = true) : ∀ c ∈ cs, p c :=
  fun c hc => of_decide_eq_true (List.all_eq_true.mp h c hc)

/-- The characters that may follow a token in printed code. -/
def boundaries : List Char := [' ', ')', ']', '}']

/-- Does the text end here, or does a boundary follow? -/
def AtBoundary (cs : List Char) : Prop := ∀ c ∈ cs.head?, c ∈ boundaries

lemma atBoundary_nil : AtBoundary [] := by
  intro c hc
  cases hc

lemma atBoundary_cons {c : Char} {cs : List Char} : AtBoundary (c :: cs) ↔ c ∈ boundaries := by
  simp [AtBoundary]

namespace AtBoundary

variable {cs : List Char}

lemma isIdentStart (h : AtBoundary cs) : ∀ c ∈ cs.head?, Text.isIdentStart c = false := by
  have hall : ∀ c ∈ boundaries, Text.isIdentStart c = false := forall_mem_of_all (by decide)
  exact fun c hc => hall c (h c hc)

lemma isIdentContinue (h : AtBoundary cs) : ∀ c ∈ cs.head?, Text.isIdentContinue c = false := by
  have hall : ∀ c ∈ boundaries, Text.isIdentContinue c = false := forall_mem_of_all (by decide)
  exact fun c hc => hall c (h c hc)

/-- No suffix follows a literal before a boundary. -/
lemma dropSuffix (h : AtBoundary cs) : Literal.dropSuffix cs = cs := by
  cases cs with
  | nil => rfl
  | cons c cs => simp [Literal.dropSuffix, splitIdent?, h.isIdentStart c rfl]

lemma endNumber? (h : AtBoundary cs) : Literal.endNumber? cs = some cs := by
  rw [Literal.endNumber?, h.dropSuffix]
  cases cs with
  | nil => rfl
  | cons c cs => simp [h.isIdentContinue c rfl]

end AtBoundary

/-! ### Kinds of literals -/

lemma ne_of_isDigit {c d : Char} (hc : c.isDigit = true) (hd : d.isDigit = false) : c ≠ d := by
  rintro rfl
  exact Bool.false_ne_true (hd.symm.trans hc)

lemma readText?_of_isDigit {c : Char} (hc : c.isDigit = true) (cs : List Char) :
    readText? (c :: cs) = none := by
  have hquote : c ≠ '"' := ne_of_isDigit hc rfl
  have hraw : c ≠ 'r' := ne_of_isDigit hc rfl
  have hbytes : c ≠ 'b' := ne_of_isDigit hc rfl
  have hterminated : c ≠ 'c' := ne_of_isDigit hc rfl
  unfold readText?
  split <;> simp_all

/-- What begins with a digit is a fraction or an integer. -/
lemma read?_of_isDigit {c : Char} (hc : c.isDigit = true) (cs : List Char) :
    read? (c :: cs) =
      (((skipFraction? (c :: cs)).bind endNumber?).map fun after => (.fraction, after)).or
        ((readInteger? (c :: cs)).map fun (n, after) => (.integer n, after)) := by
  have hbyte : c ≠ 'b' := ne_of_isDigit hc rfl
  have hquote : c ≠ '\'' := ne_of_isDigit hc rfl
  unfold read?
  rw [readText?_of_isDigit hc, Option.none_or]
  split <;> simp_all

/-- Digits before a boundary are no fraction. -/
lemma skipFraction?_digits {c : Char} {cs rest : List Char}
    (hdigits : ∀ d ∈ c :: cs, d.isDigit = true) (hrest : AtBoundary rest) :
    skipFraction? (c :: (cs ++ rest)) = none := by
  have hdigit : ∀ d ∈ c :: cs, isDigitOrUnderscore d = true := by
    intro d hd
    simp [isDigitOrUnderscore, hdigits d hd]
  have hstop : ∀ d ∈ boundaries, isDigitOrUnderscore d = false ∧ d ≠ '.' ∧ d ≠ 'e' ∧ d ≠ 'E' :=
    forall_mem_of_all (by decide)
  have hwhole : (c :: (cs ++ rest)).dropWhile isDigitOrUnderscore =
      rest.dropWhile isDigitOrUnderscore := List.dropWhile_append_of_pos hdigit
  simp only [skipFraction?, hwhole, hdigits c List.mem_cons_self, Bool.not_true,
    Bool.false_eq_true, if_false]
  cases rest with
  | nil => rfl
  | cons d rest =>
    obtain ⟨hstop, hpoint, he, hE⟩ := hstop d (hrest d rfl)
    rw [List.dropWhile_cons_of_neg (by simp [hstop])]
    split
    · rename_i heq
      exact absurd (List.cons.inj heq).1 hpoint
    · rename_i heq
      cases heq
      simp [he, hE]
    · rfl

/-! ### Digits -/

/-- No letter of a base stands in or behind digits before a boundary. -/
lemma splitBase_digits {c : Char} {cs rest : List Char}
    (hdigits : ∀ d ∈ c :: cs, d.isDigit = true) (hrest : AtBoundary rest) :
    splitBase (c :: (cs ++ rest)) = (10, c :: (cs ++ rest)) := by
  have hsecond : ∀ d ∈ (cs ++ rest).head?, d ≠ 'x' ∧ d ≠ 'o' ∧ d ≠ 'b' := by
    intro d hd
    cases cs with
    | nil =>
      have hall : ∀ d ∈ boundaries, d ≠ 'x' ∧ d ≠ 'o' ∧ d ≠ 'b' := forall_mem_of_all (by decide)
      exact hall d (hrest d hd)
    | cons e cs =>
      cases hd
      have he := hdigits d (by simp)
      exact ⟨ne_of_isDigit he rfl, ne_of_isDigit he rfl, ne_of_isDigit he rfl⟩
  unfold splitBase
  split
  · rename_i heq
    rw [(List.cons.inj heq).2] at hsecond
    exact absurd rfl (hsecond _ rfl).1
  · rename_i heq
    rw [(List.cons.inj heq).2] at hsecond
    exact absurd rfl (hsecond _ rfl).2.1
  · rename_i heq
    rw [(List.cons.inj heq).2] at hsecond
    exact absurd rfl (hsecond _ rfl).2.2
  · rfl

lemma readDigits?_digitChar {d : Nat} (hd : d < 10) (value : Option Nat) (rest : List Char) :
    readDigits? 10 value (Nat.digitChar d :: rest) =
      readDigits? 10 (some (value.getD 0 * 10 + d)) rest := by
  have hall : ∀ d : Fin 10,
      Nat.digitChar d ≠ '_' ∧ hexDigit? (Nat.digitChar d) = some d.val := by decide
  obtain ⟨hunderscore, hdigit⟩ := hall ⟨d, hd⟩
  rw [readDigits?, if_neg hunderscore]
  dsimp only at hdigit
  simp only [hdigit, if_pos hd]

lemma readDigits?_toDigits (n : Nat) (rest : List Char) :
    readDigits? 10 none (Nat.toDigits 10 n ++ rest) = readDigits? 10 (some n) rest := by
  induction n using Nat.strongRecOn generalizing rest with
  | ind n ih =>
    by_cases hn : n < 10
    · rw [Nat.toDigits_of_lt_base hn, List.singleton_append, readDigits?_digitChar hn]
      simp
    · -- the last digit comes behind the digits of a smaller number
      have hsplit := Nat.toDigits_of_base_le (b := 10) (by omega) (Nat.not_lt.mp hn)
      rw [hsplit, List.append_assoc, ih (n / 10) (by omega), List.singleton_append,
        readDigits?_digitChar (Nat.mod_lt n (by omega)), Option.getD_some, Nat.div_add_mod' n 10]

lemma readDigits?_boundary (n : Nat) {rest : List Char} (hrest : AtBoundary rest) :
    readDigits? 10 (some n) rest = some (n, rest) := by
  cases rest with
  | nil => rfl
  | cons c rest =>
    have hall : ∀ c ∈ boundaries, c ≠ '_' ∧ hexDigit? c = none := forall_mem_of_all (by decide)
    obtain ⟨hunderscore, hdigit⟩ := hall c (hrest c rfl)
    simp [readDigits?, hunderscore, hdigit]

/-- The numeral of a number is the digits of it, of which there is at least one. -/
lemma exists_numeral_toList (n : Nat) :
    ∃ c cs, (Text.numeral n).toList = c :: cs ∧ ∀ d ∈ c :: cs, d.isDigit = true := by
  obtain ⟨c, cs, hcons⟩ := List.exists_cons_of_ne_nil (Nat.toDigits_ne_nil (n := n) (b := 10))
  refine ⟨c, cs, ?_, ?_⟩
  · rw [Text.numeral, String.toList_ofList, hcons]
  · intro d hd
    rw [← hcons] at hd
    exact Nat.isDigit_of_mem_toDigits (by decide) (by decide) hd

/-- The numeral of a number, before a boundary, is read as the number. -/
lemma read?_numeral (n : Nat) {rest : List Char} (hrest : AtBoundary rest) :
    read? ((Text.numeral n).toList ++ rest) = some (.integer n, rest) := by
  have hvalue : readDigits? 10 none ((Text.numeral n).toList ++ rest) = some (n, rest) := by
    rw [Text.numeral, String.toList_ofList, readDigits?_toDigits, readDigits?_boundary n hrest]
  obtain ⟨c, cs, hcons, hdigits⟩ := exists_numeral_toList n
  rw [hcons, List.cons_append] at hvalue ⊢
  rw [read?_of_isDigit (hdigits c List.mem_cons_self), skipFraction?_digits hdigits hrest,
    readInteger?, splitBase_digits hdigits hrest]
  simp only [hvalue, hrest.endNumber?]
  rfl

/-- The numeral of a number denotes the number. -/
theorem value_numeral (n : Nat) : value (Text.numeral n) = .integer n := by
  have hread := read?_numeral n atBoundary_nil
  rw [List.append_nil] at hread
  simp only [value, hread]

end Literal

/-! ### Integers -/

/-- The code of an integer denotes the integer. -/
@[simp] theorem integerLiteral?_tokens_integer (n : Int64) :
    integerLiteral? (RawValue.integer n).tokens = some n.toInt := by
  have hmagnitude : integerLiteral?.magnitude? (Text.numeral n.toInt.natAbs) =
      some (n.toInt.natAbs : Int) := by
    rw [integerLiteral?.magnitude?, Literal.value_numeral]
  unfold RawValue.tokens
  dsimp only
  split_ifs with hsign
  · have hnegated : integerLiteral? (Token.operator "-" ++
        [Token.lit (Text.numeral n.toInt.natAbs)]) = some (-(n.toInt.natAbs : Int)) :=
      congrArg (Option.map (- ·)) hmagnitude
    rw [hnegated, Int.ofNat_natAbs_of_nonpos (Int.le_of_lt hsign), Int.neg_neg]
  · have hplain : integerLiteral? [Token.lit (Text.numeral n.toInt.natAbs)] =
        some (n.toInt.natAbs : Int) := hmagnitude
    rw [hplain, Int.natAbs_of_nonneg (Int.not_lt.mp hsign)]

/-- The code of an integer is no text literal. -/
@[simp] lemma textLiteral?_tokens_integer (n : Int64) :
    textLiteral? (RawValue.integer n).tokens = none := by
  have hnumeral : textLiteral? [Token.lit (Text.numeral n.toInt.natAbs)] = none := by
    simp only [Token.lit, textLiteral?, Literal.value_numeral]
  unfold RawValue.tokens
  dsimp only
  split_ifs
  · rfl
  · exact hnumeral

end FallbackEnum
