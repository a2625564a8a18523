import FallbackEnum.Text.Printable

/-!
# Quoted text

Two ways to write a text between double quotes. Both escape tabs, line ends, the quote and the
backslash, and write by number every character that has no visible form of its own. They differ
in NUL: a shown text writes `\0`; a literal avoids it before an octal digit, where `\x00` is
written.
-/

namespace FallbackEnum

namespace Text

/-! ### Single characters -/

/-- The escape `\u{…}` with lower-case digits and no leading zeros. -/
def numericEscape (c : Char) : List Char :=
  ['\\', 'u', '{'] ++ Nat.toDigits 16 c.toNat ++ ['}']

/-- The quoted form of a character other than NUL. -/
def escapeChar (c : Char) : List Char :=
  if c = '\t' then ['\\', 't']
  else if c = '\r' then ['\\', 'r']
  else if c = '\n' then ['\\', 'n']
  else if c = '"' then ['\\', '"']
  else if c = '\\' then ['\\', '\\']
  else if isGraphemeExtend c || !isPrintable c then numericEscape c
  else [c]

/-! ### Texts -/

/-- The body of a shown text. -/
def shownBody : List Char → List Char
  | [] => []
  | c :: rest => (if c = Char.ofNat 0 then ['\\', '0'] else escapeChar c) ++ shownBody rest

/-- Is the next character an octal digit? -/
def startsWithOctal : List Char → Bool
  | [] => false
  | c :: _ => '0' ≤ c && c ≤ '7'

/-- The body of a text literal. -/
def literalBody : List Char → List Char
  | [] => []
  | c :: rest =>
    (if c = Char.ofNat 0 then
      if startsWithOctal rest then ['\\', 'x', '0', '0'] else ['\\', '0']
    else escapeChar c) ++ literalBody rest

/-- A text as messages show it. -/
def shown (text : String) : String :=
  String.ofList ('"' :: shownBody text.toList ++ ['"'])

/-- A text as a literal of generated code. -/
def quoted (text : String) : String :=
  String.ofList ('"' :: literalBody text.toList ++ ['"'])

end Text

end FallbackEnum
