import FallbackEnum.Json.Reader
import Mathlib.Data.List.TakeWhile
import Mathlib.Tactic.ByContra
import Mathlib.Tactic.Lemma
import Mathlib.Tactic.SplitIfs

/-!
# Integers in JSON

The spellings of integers in JSON, and the proof that the reader gives an integer exactly for
those that fit 64 bits, with or without sign. Everything else that it reads is a float: a number
with a fraction or an exponent, minus zero, and a number that is too long.
-/

namespace FallbackEnum

namespace Json

/-! ### Grammar -/

/-- The digits of a whole number: a zero, or digits that do not begin with zero. -/
structure IsWhole (digits : List Char) : Prop where
  nonempty : digits ≠ []
  isDigit : ∀ c ∈ digits, c.isDigit = true
  zero : digits.head? = some '0' → digits = ['0']

/-- The spellings of an integer. Minus zero is none. -/
inductive SpellsInteger : List Char → Int → Prop
  | nonnegative {digits : List Char} (hdigits : IsWhole digits) :
    SpellsInteger digits (Text.ofDigits digits)
  | negative {digits : List Char} (hdigits : IsWhole digits) (hzero : digits ≠ ['0']) :
    SpellsInteger ('-' :: digits) (-(Text.ofDigits digits : Int))

/-- What may follow an integer without being part of the number. -/
structure EndsInteger (rest : List Char) : Prop where
  noDigit : ∀ c ∈ rest.head?, c.isDigit = false
  noFloat : ∀ c ∈ rest.head?, c ≠ '.' ∧ c ≠ 'e' ∧ c ≠ 'E'

/-- Characters of a class end where another one follows. -/
lemma span_append {p : Char → Bool} {front rest : List Char} (hfront : ∀ c ∈ front, p c = true)
    (hrest : ∀ c ∈ rest.head?, p c = false) :
    (front ++ rest).takeWhile p = front ∧ (front ++ rest).dropWhile p = rest := by
  rw [List.takeWhile_append_of_pos hfront, List.dropWhile_append_of_pos hfront]
  cases rest with
  | nil => simp
  | cons c rest => simp [hrest c rfl]

/-! ### Floats -/

variable {negative : Bool} {significand dropped : Nat} {exponent n : Int} {cs rest : List Char}

lemma finishFloat_ne_integer :
    finishFloat negative significand exponent cs ≠ .ok (.integer n, rest) := by
  unfold finishFloat
  split <;> simp

lemma readExponent_ne_integer :
    readExponent negative significand exponent cs ≠ .ok (.integer n, rest) := by
  unfold readExponent
  split
  split
  · simp
  · dsimp only
    split_ifs
    · simp
    · simp
    · simp
    · exact finishFloat_ne_integer
    · exact finishFloat_ne_integer

lemma readFloatEnd_ne_integer :
    readFloatEnd negative significand exponent cs ≠ .ok (.integer n, rest) := by
  unfold readFloatEnd
  split
  · split_ifs
    · exact readExponent_ne_integer
    · exact finishFloat_ne_integer
  · exact finishFloat_ne_integer

lemma readFraction_ne_integer :
    readFraction negative significand exponent cs ≠ .ok (.integer n, rest) := by
  unfold readFraction
  split
  · simp
  · split_ifs
    · simp
    · exact readFloatEnd_ne_integer

/-! ### Digits -/

lemma le_foldl_digits (m : Nat) (digits : List Char) :
    m ≤ digits.foldl (fun n c => n * 10 + Text.digitValue c) m := by
  induction digits generalizing m with
  | nil => exact Nat.le_refl m
  | cons c digits ih =>
    have hstep : m ≤ m * 10 + Text.digitValue c := by omega
    exact Nat.le_trans hstep (ih _)

lemma absorb_fits {m : Nat} {digits : List Char}
    (hfits : digits.foldl (fun n c => n * 10 + Text.digitValue c) m ≤ maxUnsigned) :
    absorb m digits =
      (digits.foldl (fun n c => n * 10 + Text.digitValue c) m, digits.length) := by
  induction digits generalizing m with
  | nil => rfl
  | cons c digits ih =>
    have hnext := Nat.le_trans (le_foldl_digits (m * 10 + Text.digitValue c) digits) hfits
    rw [absorb, ih hfits]
    simp [hnext]

/-- Some digit of a number that does not fit is left. -/
lemma absorb_exceeds {m : Nat} {digits : List Char} (hm : m ≤ maxUnsigned)
    (hexceeds : maxUnsigned < digits.foldl (fun n c => n * 10 + Text.digitValue c) m) :
    (absorb m digits).2 < digits.length := by
  induction digits generalizing m with
  | nil => exact absurd hm (Nat.not_le.mpr hexceeds)
  | cons c digits ih =>
    rw [absorb]
    split_ifs with hnext
    · exact Nat.succ_lt_succ (ih hnext hexceeds)
    · exact Nat.succ_pos _

/-! ### Numbers -/

lemma integerNumber_eq_integer_iff {magnitude : Nat} :
    integerNumber negative magnitude = .integer n ↔
      (negative = false ∧ n = magnitude) ∨
        (negative = true ∧ magnitude ≠ 0 ∧ Int64.minValue.toInt ≤ n ∧ n = -magnitude) := by
  cases negative with
  | false => simp [integerNumber, eq_comm]
  | true =>
    by_cases hfits : 0 < magnitude ∧ Int64.minValue.toInt ≤ -magnitude
    · have hinteger : integerNumber true magnitude = .integer (-magnitude) := by
        simp only [integerNumber, Bool.not_true, Bool.false_eq_true, if_false]
        rw [if_pos (by simpa using hfits)]
      rw [hinteger, JsonNumber.integer.injEq]
      constructor
      · rintro rfl
        exact .inr ⟨rfl, Nat.pos_iff_ne_zero.mp hfits.1, hfits.2, rfl⟩
      · rintro (⟨hfalse, -⟩ | ⟨-, -, -, rfl⟩)
        · cases hfalse
        · rfl
    · have hfloat : integerNumber true magnitude ≠ .integer n := by
        simp only [integerNumber, Bool.not_true, Bool.false_eq_true, if_false]
        rw [if_neg (by simpa using hfits)]
        split <;> simp
      constructor
      · exact fun h => absurd h hfloat
      · rintro (⟨hfalse, -⟩ | ⟨-, hpos, hmin, rfl⟩)
        · cases hfalse
        · exact absurd ⟨Nat.pos_iff_ne_zero.mpr hpos, hmin⟩ hfits

/-- Only whole digits that all fit and that nothing continues make an integer. -/
lemma finishNumber_eq_integer_iff :
    finishNumber negative significand dropped cs = .ok (.integer n, rest) ↔
      dropped = 0 ∧ cs = rest ∧ (∀ c ∈ cs.head?, c ≠ '.' ∧ c ≠ 'e' ∧ c ≠ 'E') ∧
        integerNumber negative significand = .integer n := by
  fun_cases finishNumber negative significand dropped cs with
  | case1 tail => simp [readFraction_ne_integer]
  | case2 e tail hpoint hexponent =>
    refine iff_of_false readExponent_ne_integer ?_
    rintro ⟨-, -, hhead, -⟩
    obtain ⟨-, he, hE⟩ := hhead e rfl
    simp [he, hE] at hexponent
  | case3 e tail hpoint hexponent hdropped =>
    have hhead : ∀ c ∈ (e :: tail).head?, c ≠ '.' ∧ c ≠ 'e' ∧ c ≠ 'E' := by
      rintro c ⟨⟩
      refine ⟨?_, by simpa using hexponent⟩
      rintro rfl
      exact hpoint rfl
    simp only [Except.ok.injEq, Prod.mk.injEq, hdropped, true_and]
    exact ⟨fun ⟨hn, hrest⟩ => ⟨hrest, hhead, hn⟩, fun ⟨hrest, _, hn⟩ => ⟨hn, hrest⟩⟩
  | case4 e tail hpoint hexponent hdropped => simp [hdropped, finishFloat_ne_integer]
  | case5 hdropped => simp [hdropped, and_comm]
  | case6 hdropped => simp [hdropped, finishFloat_ne_integer]

/-- Behind its digits a whole number that fits is finished, and any other one is not an
integer. -/
lemma finishNumber_absorb_eq_integer_iff {digits : List Char} :
    finishNumber negative (absorb 0 digits).1 (digits.length - (absorb 0 digits).2) cs =
        .ok (.integer n, rest) ↔
      cs = rest ∧ (∀ c ∈ cs.head?, c ≠ '.' ∧ c ≠ 'e' ∧ c ≠ 'E') ∧
        Text.ofDigits digits ≤ maxUnsigned ∧
        integerNumber negative (Text.ofDigits digits) = .integer n := by
  rw [finishNumber_eq_integer_iff, Text.ofDigits]
  -- A number that does not fit drops digits, and nothing with dropped digits is an integer.
  by_cases hfits : digits.foldl (fun n c => n * 10 + Text.digitValue c) 0 ≤ maxUnsigned
  · simp [absorb_fits hfits, hfits]
  · have hleft := absorb_exceeds (Nat.zero_le _) (Nat.not_le.mp hfits)
    refine iff_of_false ?_ ?_
    · rintro ⟨hdropped, -⟩
      omega
    · rintro ⟨-, -, hle, -⟩
      exact hfits hle

lemma readMagnitude_zero_eq_integer_iff {tail : List Char} :
    readMagnitude negative ('0' :: tail) = .ok (.integer n, rest) ↔
      tail = rest ∧ EndsInteger rest ∧ integerNumber negative 0 = .integer n := by
  have hdigit : Char.isDigit '0' = true := by decide
  simp only [readMagnitude, hdigit, Bool.not_true, Bool.false_eq_true, if_false, if_true]
  split_ifs with hmore
  · refine iff_of_false (by simp) ?_
    rintro ⟨rfl, hends, -⟩
    obtain ⟨c, hc, hc'⟩ := (Option.any_eq_true _ _).mp hmore
    simp [hends.noDigit c hc] at hc'
  · have hnoDigit : ∀ c ∈ tail.head?, c.isDigit = false := by
      intro c hc
      simpa [Option.mem_def.mp hc] using hmore
    rw [finishNumber_eq_integer_iff]
    constructor
    · rintro ⟨-, rfl, hnoFloat, hn⟩
      exact ⟨rfl, ⟨hnoDigit, hnoFloat⟩, hn⟩
    · rintro ⟨rfl, hends, hn⟩
      exact ⟨rfl, rfl, hends.noFloat, hn⟩

/-- Digits that do not begin with zero are a whole number as far as they go. -/
lemma readMagnitude_digits_eq_integer_iff {c : Char} {tail : List Char}
    (hdigit : c.isDigit = true) (hzero : c ≠ '0') :
    readMagnitude negative (c :: tail) = .ok (.integer n, rest) ↔
      ∃ digits, c :: tail = digits ++ rest ∧ (∀ d ∈ digits, d.isDigit = true) ∧
        EndsInteger rest ∧ Text.ofDigits digits ≤ maxUnsigned ∧
        integerNumber negative (Text.ofDigits digits) = .integer n := by
  simp only [readMagnitude, hdigit, hzero, Bool.not_true, Bool.false_eq_true, if_false]
  rw [finishNumber_absorb_eq_integer_iff]
  constructor
  · rintro ⟨rfl, hnoFloat, hfits, hn⟩
    refine ⟨_, (List.takeWhile_append_dropWhile ..).symm, ?_, ⟨?_, hnoFloat⟩, hfits, hn⟩
    · exact List.all_eq_true.mp List.all_takeWhile
    · intro d hd
      have hhead := List.head?_dropWhile_not Char.isDigit (c :: tail)
      rw [Option.mem_def.mp hd] at hhead
      exact hhead
  · rintro ⟨digits, hcs, hdigits, hends, hfits, hn⟩
    obtain ⟨htake, hdrop⟩ := span_append hdigits hends.noDigit
    rw [hcs, htake, hdrop]
    exact ⟨rfl, hends.noFloat, hfits, hn⟩

/-- Behind its sign, an integer is a whole number that fits. -/
lemma readMagnitude_eq_integer_iff :
    readMagnitude negative cs = .ok (.integer n, rest) ↔
      ∃ digits, cs = digits ++ rest ∧ IsWhole digits ∧ EndsInteger rest ∧
        Text.ofDigits digits ≤ maxUnsigned ∧
        integerNumber negative (Text.ofDigits digits) = .integer n := by
  constructor
  · intro h
    cases cs with
    | nil => simp [readMagnitude] at h
    | cons c tail =>
      have hdigit : c.isDigit = true := by
        by_contra hother
        rw [Bool.not_eq_true] at hother
        simp [readMagnitude, hother] at h
      by_cases hzero : c = '0'
      · subst hzero
        obtain ⟨rfl, hends, hn⟩ := readMagnitude_zero_eq_integer_iff.mp h
        refine ⟨['0'], rfl, ⟨by simp, by simp [hdigit], fun _ => rfl⟩, hends, ?_, hn⟩
        exact Nat.zero_le _
      · obtain ⟨digits, hcs, hdigits, hends, hfits, hn⟩ :=
          (readMagnitude_digits_eq_integer_iff hdigit hzero).mp h
        refine ⟨digits, hcs, ⟨?_, hdigits, ?_⟩, hends, hfits, hn⟩
        · rintro rfl
          rw [List.nil_append] at hcs
          subst hcs
          simp [hends.noDigit c rfl] at hdigit
        · intro hhead
          cases digits with
          | nil => cases hhead
          | cons d digits =>
            cases hhead
            exact absurd (List.cons.inj hcs).1 hzero
  · rintro ⟨digits, rfl, hwhole, hends, hfits, hn⟩
    cases digits with
    | nil => exact absurd rfl hwhole.nonempty
    | cons c digits =>
      by_cases hzero : c = '0'
      · subst hzero
        have hlone : '0' :: digits = ['0'] := hwhole.zero rfl
        cases hlone
        exact readMagnitude_zero_eq_integer_iff.mpr ⟨rfl, hends, hn⟩
      · exact (readMagnitude_digits_eq_integer_iff (hwhole.isDigit c (by simp)) hzero).mpr
          ⟨c :: digits, rfl, hwhole.isDigit, hends, hfits, hn⟩

/-- Of the whole numbers, only a zero alone is zero. -/
lemma IsWhole.ofDigits_eq_zero_iff {digits : List Char} (h : IsWhole digits) :
    Text.ofDigits digits = 0 ↔ digits = ['0'] := by
  constructor
  · intro hvalue
    cases digits with
    | nil => exact absurd rfl h.nonempty
    | cons c digits =>
      have hle := le_foldl_digits (0 * 10 + Text.digitValue c) digits
      rw [Text.ofDigits, List.foldl_cons] at hvalue
      have hdigit := Char.isDigit_iff_toNat.mp (h.isDigit c (by simp))
      have hc : c.toNat = '0'.toNat := by
        rw [Text.digitValue] at hle hvalue
        omega
      exact h.zero (congrArg some (Char.toNat_inj.mp hc))
  · rintro rfl
    rfl

lemma readNumber_of_no_minus (h : cs.head? ≠ some '-') :
    readNumber cs = readMagnitude false cs := by
  fun_cases readNumber cs with
  | case1 tail => exact absurd rfl h
  | case2 => rfl

lemma IsWhole.head?_ne_minus {digits : List Char} (h : IsWhole digits) :
    (digits ++ rest).head? ≠ some '-' := by
  cases digits with
  | nil => exact absurd rfl h.nonempty
  | cons c digits =>
    rintro ⟨⟩
    have hdigit := h.isDigit '-' (by simp)
    revert hdigit
    decide

/-- The reader gives the integers that fit 64 bits, and gives them for their spellings only. -/
theorem readNumber_eq_integer_iff :
    readNumber cs = .ok (.integer n, rest) ↔
      ∃ spelling, cs = spelling ++ rest ∧ SpellsInteger spelling n ∧ EndsInteger rest ∧
        Int64.minValue.toInt ≤ n ∧ n ≤ maxUnsigned := by
  rw [Int64.toInt_minValue]
  constructor
  · intro h
    by_cases hminus : cs.head? = some '-'
    · obtain ⟨tail, rfl⟩ := List.head?_eq_some_iff.mp hminus
      obtain ⟨digits, rfl, hwhole, hends, -, hn⟩ := readMagnitude_eq_integer_iff.mp h
      obtain ⟨hpositive, -⟩ | ⟨-, hnonzero, hmin, rfl⟩ := integerNumber_eq_integer_iff.mp hn
      · cases hpositive
      · rw [Int64.toInt_minValue] at hmin
        refine ⟨'-' :: digits, rfl, .negative hwhole ?_, hends, hmin, by omega⟩
        rwa [Ne, hwhole.ofDigits_eq_zero_iff] at hnonzero
    · rw [readNumber_of_no_minus hminus] at h
      obtain ⟨digits, rfl, hwhole, hends, hfits, hn⟩ := readMagnitude_eq_integer_iff.mp h
      obtain ⟨-, rfl⟩ | ⟨hnegative, -⟩ := integerNumber_eq_integer_iff.mp hn
      · exact ⟨digits, rfl, .nonnegative hwhole, hends, by omega, Int.ofNat_le.mpr hfits⟩
      · cases hnegative
  · rintro ⟨_, rfl, ⟨hwhole⟩ | ⟨hwhole, hzero⟩, hends, hmin, hmax⟩
    · rw [readNumber_of_no_minus hwhole.head?_ne_minus, readMagnitude_eq_integer_iff]
      exact ⟨_, rfl, hwhole, hends, Int.ofNat_le.mp hmax,
        integerNumber_eq_integer_iff.mpr (.inl ⟨rfl, rfl⟩)⟩
    · rw [List.cons_append, readNumber, readMagnitude_eq_integer_iff]
      refine ⟨_, rfl, hwhole, hends, ?_,
        integerNumber_eq_integer_iff.mpr (.inr ⟨rfl, ?_, ?_, rfl⟩)⟩
      · have hsize : maxUnsigned = 18446744073709551615 := rfl
        omega
      · rwa [Ne, hwhole.ofDigits_eq_zero_iff]
      · rwa [Int64.toInt_minValue]

end Json

end FallbackEnum
