import FallbackEnum.Text.Identifier
import FallbackEnum.Token.Basic

/-!
# Literals

The spelling of a literal: quoted and raw texts in three flavours, characters, bytes, integers in
four bases, and decimal fractions, each with an optional suffix. One reader serves both to find
where a literal ends and to find the value that it denotes.
-/

namespace FallbackEnum

namespace Literal

open Text

/-! ### Names -/

/-- Split off the identifier at the front, without regard to a raw mark. -/
def splitIdent? : List Char → Option (List Char × List Char)
  | [] => none
  | c :: rest =>
    if isIdentStart c then
      some (c :: rest.takeWhile isIdentContinue, rest.dropWhile isIdentContinue)
    else none

/-- Drop the suffix of a literal, if it has one. -/
def dropSuffix (cs : List Char) : List Char :=
  match splitIdent? cs with
  | some (_, rest) => rest
  | none => cs

/-! ### Digits -/

/-- The value of a hexadecimal digit. -/
def hexDigit? (c : Char) : Option Nat :=
  if '0' ≤ c && c ≤ '9' then some (c.toNat - '0'.toNat)
  else if 'a' ≤ c && c ≤ 'f' then some (c.toNat - 'a'.toNat + 10)
  else if 'A' ≤ c && c ≤ 'F' then some (c.toNat - 'A'.toNat + 10)
  else none

/-- The character with a given code point. Surrogates and numbers beyond the last plane are
none. -/
def charOfCode? (code : Nat) : Option Char :=
  if h : code.isValidChar then some (Char.ofNatAux code h) else none

/-! ### Quoted texts -/

/-- The three flavours of text literals: text, bytes (`b`), and zero-terminated text (`c`). -/
inductive Flavour where
  | text
  | bytes
  | terminated
deriving DecidableEq, Repr

/-- Where the reader of a quoted text stands. -/
inductive QuoteState where
  /-- Between two characters. -/
  | plain
  /-- After a carriage return, which only a line feed may follow. -/
  | carriage
  /-- After a backslash. -/
  | escape
  /-- After `\x`. -/
  | hexFirst
  /-- After `\x` and one digit. -/
  | hexSecond (high : Nat)
  /-- After `\u`. -/
  | codeOpen
  /-- After `\u{` and some digits. -/
  | code (digits value : Nat)
  /-- In the blank space after a backslash at the end of a line. -/
  | continued
  /-- After a carriage return in such blank space. -/
  | continuedCarriage
deriving DecidableEq, Repr

/-- What one more character means to the reader of a quoted text. -/
inductive QuoteStep where
  /-- The text ends. -/
  | close
  /-- The reader goes on, having read no character of the text. -/
  | move (next : QuoteState)
  /-- The reader goes on, having read one character of the text. -/
  | emit (c : Char)
deriving Repr

namespace QuoteState

/-- A character of the text that is written as itself. -/
def plainStep? (flavour : Flavour) (c : Char) : Option QuoteStep :=
  if c = '"' then some .close
  else if c = '\\' then some (.move .escape)
  else if c = '\r' then some (.move .carriage)
  else match flavour with
    | .text => some (.emit c)
    | .bytes => if c.toNat < 0x80 then some (.emit c) else none
    | .terminated => if c = Char.ofNat 0 then none else some (.emit c)

/-- The character after a backslash. -/
def escapeStep? (flavour : Flavour) (c : Char) : Option QuoteStep :=
  if c = 'n' then some (.emit '\n')
  else if c = 'r' then some (.emit '\r')
  else if c = 't' then some (.emit '\t')
  else if c = '\\' || c = '\'' || c = '"' then some (.emit c)
  else if c = '0' then if flavour = .terminated then none else some (.emit (Char.ofNat 0))
  else if c = 'x' then some (.move .hexFirst)
  else if c = 'u' then if flavour = .bytes then none else some (.move .codeOpen)
  else if c = '\n' then some (.move .continued)
  else if c = '\r' then some (.move .continuedCarriage)
  else none

/-- A character between the braces of `\u{…}`. At most six digits, and `_` after the first. -/
def codeStep? (flavour : Flavour) (digits value : Nat) (c : Char) : Option QuoteStep :=
  match hexDigit? c with
  | some d => if digits < 6 then some (.move (.code (digits + 1) (value * 16 + d))) else none
  | none =>
    if digits = 0 then none
    else if c = '_' then some (.move (.code digits value))
    else if c = '}' then
      if flavour = .terminated && value = 0 then none else (charOfCode? value).map .emit
    else none

/-- One step of the reader; `none` when the character cannot stand there. -/
def step? (flavour : Flavour) : QuoteState → Char → Option QuoteStep
  | plain, c => plainStep? flavour c
  | carriage, c => if c = '\n' then some (.emit '\n') else none
  | escape, c => escapeStep? flavour c
  | hexFirst, c =>
    match hexDigit? c with
    | some d => if d < 8 || flavour ≠ .text then some (.move (.hexSecond d)) else none
    | none => none
  | hexSecond high, c =>
    match hexDigit? c with
    | some d =>
      if flavour = .terminated && high = 0 && d = 0 then none
      else some (.emit (Char.ofNat (high * 16 + d)))
    | none => none
  | codeOpen, c => if c = '{' then some (.move (.code 0 0)) else none
  | code digits value, c => codeStep? flavour digits value c
  | continued, c =>
    if c = ' ' || c = '\t' || c = '\n' then some (.move .continued)
    else if c = '\r' then some (.move .continuedCarriage)
    else plainStep? flavour c
  | continuedCarriage, c => if c = '\n' then some (.move .continued) else none

end QuoteState

/-- Read a quoted text to its closing quote: the text it denotes, and what follows. -/
def readQuoted? (flavour : Flavour) : QuoteState → List Char → Option (List Char × List Char)
  | _, [] => none
  | state, c :: rest =>
    match state.step? flavour c with
    | none => none
    | some .close => some ([], rest)
    | some (.move next) => readQuoted? flavour next rest
    | some (.emit d) => (readQuoted? flavour .plain rest).map fun (ds, after) => (d :: ds, after)

/-! ### Raw texts -/

/-- Does the list begin with this many `#`? -/
def startsWithHashes : Nat → List Char → Bool
  | 0, _ => true
  | n + 1, '#' :: rest => startsWithHashes n rest
  | _ + 1, _ => false

/-- May this character stand in a raw text? -/
def rawAllows (flavour : Flavour) (c : Char) : Bool :=
  match flavour with
  | .text => true
  | .bytes => c.toNat < 0x80
  | .terminated => c ≠ Char.ofNat 0

/-- Read a raw text to its closing quote and hashes. A carriage return needs its line feed. -/
def readRawBody? (flavour : Flavour) (hashes : Nat) : List Char → Option (List Char × List Char)
  | [] => none
  | c :: rest =>
    if c = '"' && startsWithHashes hashes rest then some ([], rest.drop hashes)
    else if c = '\r' && rest.head? ≠ some '\n' then none
    else if rawAllows flavour c then
      (readRawBody? flavour hashes rest).map fun (ds, after) => (c :: ds, after)
    else none

/-- Read a raw text from its opening hashes on. -/
def readRaw? (flavour : Flavour) (cs : List Char) : Option (List Char × List Char) :=
  let hashes := (cs.takeWhile (· = '#')).length
  match cs.drop hashes with
  | '"' :: rest => if hashes ≤ 255 then readRawBody? flavour hashes rest else none
  | _ => none

/-! ### Characters and bytes -/

/-- The rest after one escape of a character literal, from behind the backslash. -/
def skipEscape? (flavour : Flavour) : QuoteState → List Char → Option (List Char)
  | _, [] => none
  | state, c :: rest =>
    match state.step? flavour c with
    | some (.emit _) => some rest
    | some (.move .continued) => none
    | some (.move .continuedCarriage) => none
    | some (.move next) => skipEscape? flavour next rest
    | _ => none

/-- The rest after a character (`.text`) or byte (`.bytes`) literal, from behind its quote. -/
def skipCharacter? (flavour : Flavour) (cs : List Char) : Option (List Char) :=
  let body :=
    match cs with
    | '\\' :: rest => skipEscape? flavour .escape rest
    | c :: rest => if flavour = .text || c.toNat < 0x80 then some rest else none
    | [] => none
  match body with
  | some ('\'' :: rest) => some (dropSuffix rest)
  | _ => none

/-! ### Numbers -/

/-- The base of an integer by its first characters, and its digits. -/
def splitBase (cs : List Char) : Nat × List Char :=
  match cs with
  | '0' :: 'x' :: rest => (16, rest)
  | '0' :: 'o' :: rest => (8, rest)
  | '0' :: 'b' :: rest => (2, rest)
  | _ => (10, cs)

/-- Read the digits of an integer, with the number read so far (if a digit was seen): the number
and what follows. A decimal digit too large for the base is refused, a letter ends the number. -/
def readDigits? (base : Nat) : Option Nat → List Char → Option (Nat × List Char)
  | value, [] => value.map fun n => (n, [])
  | value, c :: rest =>
    if c = '_' then
      if base = 10 && value.isNone then none else readDigits? base value rest
    else match hexDigit? c with
      | some d =>
        if d < base then readDigits? base (some (value.getD 0 * base + d)) rest
        else if c.isDigit then none
        else value.map fun n => (n, c :: rest)
      | none => value.map fun n => (n, c :: rest)

/-- Drop the suffix of a number; no further identifier character may follow. -/
def endNumber? (cs : List Char) : Option (List Char) :=
  match dropSuffix cs with
  | [] => some []
  | c :: rest => if isIdentContinue c then none else some (c :: rest)

/-- Read an integer: its value and what follows it and its suffix. -/
def readInteger? (cs : List Char) : Option (Nat × List Char) :=
  let (base, digits) := splitBase cs
  match readDigits? base none digits with
  | some (n, rest) => (endNumber? rest).map fun after => (n, after)
  | none => none

/-- Digits and underscores. -/
def isDigitOrUnderscore (c : Char) : Bool := c.isDigit || c = '_'

/-- The rest after an exponent, from behind its `e`; `none` when it has no digit. -/
def skipExponent? (cs : List Char) : Option (List Char) :=
  let unsigned := cs.dropWhile (· = '_')
  let digits :=
    match unsigned with
    | '+' :: rest => rest
    | '-' :: rest => rest
    | _ => unsigned
  if (digits.takeWhile isDigitOrUnderscore).any Char.isDigit then
    some (digits.dropWhile isDigitOrUnderscore)
  else none

/-- The rest after the digits, point and exponent of a fraction, before its suffix. A number with
neither point nor exponent is no fraction, nor is one whose point begins a range or a member. -/
def skipFraction? (cs : List Char) : Option (List Char) :=
  match cs with
  | [] => none
  | first :: _ =>
    if !first.isDigit then none
    else
      let whole := cs.dropWhile isDigitOrUnderscore
      match whole with
      | '.' :: after =>
        if after.head?.any fun c => c = '.' || isIdentStart c then none
        else
          let rest := after.dropWhile isDigitOrUnderscore
          match rest with
          | e :: exponent =>
            if e = 'e' || e = 'E' then some ((skipExponent? exponent).getD rest) else some rest
          | [] => some []
      | e :: exponent => if e = 'e' || e = 'E' then skipExponent? exponent else none
      | [] => none

/-! ### All literals -/

/-- The values that literals denote, as far as the library looks at them. -/
inductive Value where
  /-- A text, quoted or raw. -/
  | text (value : String)
  /-- An integer of any base. -/
  | integer (value : Nat)
  /-- A decimal fraction. -/
  | fraction
  /-- A character, a byte, bytes or zero-terminated text. -/
  | other
deriving DecidableEq, Repr

/-- Read the text literal at the front: its value, and what follows it and its suffix. -/
def readText? (cs : List Char) : Option (Value × List Char) :=
  let finish (body : Option (List Char × List Char)) (value : List Char → Value) :=
    body.map fun (text, rest) => (value text, dropSuffix rest)
  let text (value : List Char) : Value := .text (String.ofList value)
  match cs with
  | '"' :: rest => finish (readQuoted? .text .plain rest) text
  | 'r' :: rest => finish (readRaw? .text rest) text
  | 'b' :: '"' :: rest => finish (readQuoted? .bytes .plain rest) fun _ => .other
  | 'b' :: 'r' :: rest => finish (readRaw? .bytes rest) fun _ => .other
  | 'c' :: '"' :: rest => finish (readQuoted? .terminated .plain rest) fun _ => .other
  | 'c' :: 'r' :: rest => finish (readRaw? .terminated rest) fun _ => .other
  | _ => none

/-- Read the literal at the front: its value, and what follows it and its suffix. -/
def read? (cs : List Char) : Option (Value × List Char) :=
  (readText? cs).or <|
    match cs with
    | 'b' :: '\'' :: rest => (skipCharacter? .bytes rest).map fun after => (.other, after)
    | '\'' :: rest => (skipCharacter? .text rest).map fun after => (.other, after)
    | c :: _ =>
      if c.isDigit then
        ((skipFraction? cs).bind endNumber?).map (fun after => (.fraction, after)) |>.or <|
          (readInteger? cs).map fun (n, after) => (.integer n, after)
      else none
    | [] => none

/-- The value of a literal by its spelling. -/
def value (spelling : String) : Value :=
  match read? spelling.toList with
  | some (v, _) => v
  | none => .other

end Literal

end FallbackEnum
