import FallbackEnum.Declaration.Basic
import FallbackEnum.RawValue
import Mathlib.Tactic.Lemma
import Mathlib.Tactic.SplitIfs

/-!
# Quoted texts read back

The literal that is written for a text denotes that text. The writer goes character by character,
and the reader is a machine that stands between two characters whenever one has been read, so it
is enough that the spelling of one character takes the machine from there back to there.
-/

namespace FallbackEnum

namespace Literal

/-! ### Steps of the reader -/

lemma readQuoted?_move {flavour : Flavour} {state : QuoteState} {c : Char} (next : QuoteState)
    (h : state.step? flavour c = some (.move next)) (rest : List Char) :
    readQuoted? flavour state (c :: rest) = readQuoted? flavour next rest := by
  simp only [readQuoted?, h]

lemma readQuoted?_emit {flavour : Flavour} {state : QuoteState} {c d : Char}
    (h : state.step? flavour c = some (.emit d)) (rest : List Char) :
    readQuoted? flavour state (c :: rest) =
      (readQuoted? flavour .plain rest).map fun (ds, after) => (d :: ds, after) := by
  simp only [readQuoted?, h]

/-! ### Numeric escapes -/

lemma hexDigit?_digitChar {d : Nat} (hd : d < 16) : hexDigit? (Nat.digitChar d) = some d := by
  have hall : ∀ d : Fin 16, hexDigit? (Nat.digitChar d) = some d.val := by decide
  exact hall ⟨d, hd⟩

@[simp] lemma charOfCode?_toNat (c : Char) : charOfCode? c.toNat = some c := by
  have hvalid : c.toNat.isValidChar := c.valid
  rw [charOfCode?, dif_pos hvalid, Option.some.injEq]
  have hchar := Char.ofNat_toNat c
  rwa [Char.ofNat, dif_pos hvalid] at hchar

/-- The digits of a number are read as that number. -/
lemma readQuoted?_code_toDigits (n : Nat) (rest : List Char)
    (hlen : (Nat.toDigits 16 n).length ≤ 6) :
    readQuoted? .text (.code 0 0) (Nat.toDigits 16 n ++ rest) =
      readQuoted? .text (.code (Nat.toDigits 16 n).length n) rest := by
  have hstep : ∀ digits value d, d < 16 → digits < 6 →
      QuoteState.step? .text (.code digits value) (Nat.digitChar d) =
        some (.move (.code (digits + 1) (value * 16 + d))) := by
    intro digits value d hd hdigits
    simp [QuoteState.step?, QuoteState.codeStep?, hexDigit?_digitChar hd, hdigits]
  induction n using Nat.strongRecOn generalizing rest with
  | ind n ih =>
    by_cases hn : n < 16
    · rw [Nat.toDigits_of_lt_base hn, List.singleton_append,
        readQuoted?_move _ (hstep 0 0 n hn (by omega))]
      simp
    · have hsplit := Nat.toDigits_of_base_le (b := 16) (by omega) (Nat.not_lt.mp hn)
      rw [hsplit, List.length_append, List.length_singleton] at hlen
      have hlast := hstep (Nat.toDigits 16 (n / 16)).length (n / 16) (n % 16)
        (Nat.mod_lt n (by omega)) (by omega)
      rw [hsplit, List.append_assoc, ih (n / 16) (by omega) _ (by omega), List.singleton_append,
        readQuoted?_move _ hlast, List.length_append, List.length_singleton,
        Nat.div_add_mod' n 16]

lemma length_toDigits_toNat_le (c : Char) : (Nat.toDigits 16 c.toNat).length ≤ 6 := by
  rw [Nat.length_toDigits_le_iff (by omega) (by omega)]
  have hc : c.toNat < 0x110000 := by
    rcases c.valid with h | h
    · exact Nat.lt_trans h (by decide)
    · exact h.2
  exact Nat.lt_trans hc (by decide)

lemma readQuoted?_numericEscape (c : Char) (rest : List Char) :
    readQuoted? .text .plain (Text.numericEscape c ++ rest) =
      (readQuoted? .text .plain rest).map fun (ds, after) => (c :: ds, after) := by
  have hpos : (Nat.toDigits 16 c.toNat).length ≠ 0 :=
    Nat.pos_iff_ne_zero.mp Nat.length_toDigits_pos
  have hbrace : hexDigit? '}' = none := by decide
  have hclose : QuoteState.step? .text (.code (Nat.toDigits 16 c.toNat).length c.toNat) '}' =
      some (.emit c) := by
    simp [QuoteState.step?, QuoteState.codeStep?, hbrace, hpos]
  simp only [Text.numericEscape, List.cons_append, List.nil_append, List.append_assoc]
  rw [readQuoted?_move .escape rfl, readQuoted?_move .codeOpen rfl,
    readQuoted?_move (.code 0 0) rfl,
    readQuoted?_code_toDigits c.toNat _ (length_toDigits_toNat_le c), readQuoted?_emit hclose]

/-! ### Texts -/

/-- An escape of two characters is read as the character that it stands for. -/
lemma readQuoted?_simpleEscape {c d : Char}
    (h : QuoteState.escape.step? .text c = some (.emit d)) (rest : List Char) :
    readQuoted? .text .plain ('\\' :: c :: rest) =
      (readQuoted? .text .plain rest).map fun (ds, after) => (d :: ds, after) := by
  rw [readQuoted?_move .escape rfl]
  exact readQuoted?_emit h rest

/-- One character other than NUL, as it is quoted, is read as that character. -/
lemma readQuoted?_escapeChar (c : Char) (rest : List Char) :
    readQuoted? .text .plain (Text.escapeChar c ++ rest) =
      (readQuoted? .text .plain rest).map fun (ds, after) => (c :: ds, after) := by
  unfold Text.escapeChar
  split_ifs with htab hcr hlf hquote hslash hhidden
  · subst htab; exact readQuoted?_simpleEscape rfl rest
  · subst hcr; exact readQuoted?_simpleEscape rfl rest
  · subst hlf; exact readQuoted?_simpleEscape rfl rest
  · subst hquote; exact readQuoted?_simpleEscape rfl rest
  · subst hslash; exact readQuoted?_simpleEscape rfl rest
  · exact readQuoted?_numericEscape c rest
  · -- a visible character stands for itself, and is neither the quote nor an escape
    apply readQuoted?_emit
    simp [QuoteState.step?, QuoteState.plainStep?, hquote, hslash, hcr]

/-- NUL is read back from both of its spellings. -/
lemma readQuoted?_nul (octal : Bool) (rest : List Char) :
    readQuoted? .text .plain
        ((if octal then ['\\', 'x', '0', '0'] else ['\\', '0']) ++ rest) =
      (readQuoted? .text .plain rest).map fun (ds, after) => (Char.ofNat 0 :: ds, after) := by
  cases octal with
  | false => exact readQuoted?_simpleEscape rfl rest
  | true =>
    simp only [if_true, List.cons_append, List.nil_append]
    rw [readQuoted?_move .escape rfl, readQuoted?_move .hexFirst rfl,
      readQuoted?_move (.hexSecond 0) rfl]
    exact readQuoted?_emit rfl rest

lemma readQuoted?_literalBody (cs rest : List Char) :
    readQuoted? .text .plain (Text.literalBody cs ++ '"' :: rest) = some (cs, rest) := by
  induction cs with
  | nil => rfl
  | cons c cs ih =>
    rw [Text.literalBody, List.append_assoc]
    by_cases hnul : c = Char.ofNat 0
    · subst hnul
      rw [if_pos rfl, readQuoted?_nul, ih]
      rfl
    · rw [if_neg hnul, readQuoted?_escapeChar, ih]
      rfl

/-- The literal of a text is read to its closing quote, and what follows may begin with a
suffix. -/
lemma read?_quoted (text : String) (rest : List Char) :
    read? ((Text.quoted text).toList ++ rest) = some (.text text, dropSuffix rest) := by
  simp only [Text.quoted, String.toList_ofList, List.cons_append, List.append_assoc,
    List.nil_append, read?, readText?, readQuoted?_literalBody, Option.map_some,
    String.ofList_toList, Option.some_or]

/-- The literal of a text denotes the text. -/
theorem value_quoted (text : String) : value (Text.quoted text) = .text text := by
  have hread := read?_quoted text []
  rw [List.append_nil] at hread
  simp only [value, hread]

end Literal

/-- The code of a text is a text literal with that text. -/
@[simp] theorem textLiteral?_tokens_text (text : String) :
    textLiteral? (RawValue.text text).tokens = some text := by
  simp [RawValue.tokens, Token.lit, textLiteral?, Literal.value_quoted]

end FallbackEnum
