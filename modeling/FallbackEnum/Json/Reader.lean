import FallbackEnum.Json.Basic
import FallbackEnum.Text.Digits
import FallbackEnum.Token.Literal

/-!
# Reading JSON

Readers take characters from the front of a text and give what is left. A text that ends too
early is told apart from one that breaks the rules.
-/

namespace FallbackEnum

namespace Json

/-! ### Blank space -/

/-- The four blank characters. -/
def isBlank (c : Char) : Bool := c = ' ' || c = '\n' || c = '\t' || c = '\r'

/-- What is left behind blank space. -/
def skipBlank (cs : List Char) : List Char := cs.dropWhile isBlank

/-! ### Words -/

/-- Read the rest of a word. -/
def readWord : List Char → List Char → Except DecodeError (List Char)
  | [], cs => .ok cs
  | _ :: _, [] => .error .truncated
  | w :: word, c :: cs => if c = w then readWord word cs else .error .malformed

/-! ### Texts -/

/-- Where the reader of a text stands. -/
inductive TextState where
  | plain
  | escape
  /-- After `\u` and some of its four digits, perhaps behind the first half of a pair. -/
  | code (high : Option Nat) (digits value : Nat)
  /-- After the first half of a pair, which the second has to follow. -/
  | pairEscape (high : Nat)
  | pairCode (high : Nat)

/-- Are there fewer than four bytes left? Then a numeric escape is cut off. -/
def isShort (cs : List Char) : Bool := (cs.take 4).foldl (fun n c => n + c.utf8Size) 0 < 4

/-- The character that a simple escape stands for. -/
def simpleEscape? (c : Char) : Option Char :=
  if c = '"' || c = '\\' || c = '/' then some c
  else if c = 'b' then some '\x08'
  else if c = 'f' then some '\x0c'
  else if c = 'n' then some '\n'
  else if c = 'r' then some '\r'
  else if c = 't' then some '\t'
  else none

/-- Is this the first half of a pair? -/
def isHighHalf (n : Nat) : Bool := 0xD800 ≤ n && n ≤ 0xDBFF

/-- Is this the second half of a pair? -/
def isLowHalf (n : Nat) : Bool := 0xDC00 ≤ n && n ≤ 0xDFFF

/-- Read a text to its closing quote. -/
def readTextFrom : TextState → List Char → Except DecodeError (List Char × List Char)
  | _, [] => .error .truncated
  | state, c :: rest =>
    let emit (d : Char) : Except DecodeError (List Char × List Char) := do
      let (ds, after) ← readTextFrom .plain rest
      .ok (d :: ds, after)
    match state with
    | .plain =>
      if c = '"' then .ok ([], rest)
      else if c = '\\' then readTextFrom .escape rest
      else if c.toNat < 0x20 then .error .malformed
      else emit c
    | .escape =>
      match simpleEscape? c with
      | some d => emit d
      | none =>
        if c = 'u' then
          if isShort rest then .error .truncated else readTextFrom (.code none 0 0) rest
        else .error .malformed
    | .code high digits value =>
      match Literal.hexDigit? c with
      | none => .error .malformed
      | some d =>
        let value := value * 16 + d
        if digits < 3 then readTextFrom (.code high (digits + 1) value) rest
        else
          match high with
          | some h =>
            if isLowHalf value then
              emit (Char.ofNat (0x10000 + (h - 0xD800) * 0x400 + (value - 0xDC00)))
            else .error .malformed
          | none =>
            if isLowHalf value then .error .malformed
            else if isHighHalf value then readTextFrom (.pairEscape value) rest
            else emit (Char.ofNat value)
    | .pairEscape high =>
      if c = '\\' then readTextFrom (.pairCode high) rest else .error .malformed
    | .pairCode high =>
      if c = 'u' then
        if isShort rest then .error .truncated else readTextFrom (.code (some high) 0 0) rest
      else .error .malformed

/-- Read a text from behind its opening quote. -/
def readText (cs : List Char) : Except DecodeError (String × List Char) := do
  let (chars, rest) ← readTextFrom .plain cs
  .ok (String.ofList chars, rest)

/-! ### Numbers -/

/-- The greatest unsigned integer of 64 bits. -/
def maxUnsigned : Nat := UInt64.size - 1

/-- Take in digits as long as the number fits 64 bits: the number, and how many digits it
took. -/
def absorb : Nat → List Char → Nat × Nat
  | n, [] => (n, 0)
  | n, c :: rest =>
    let next := n * 10 + Text.digitValue c
    if next ≤ maxUnsigned then
      let (m, count) := absorb next rest
      (m, count + 1)
    else (n, 0)

/-- Divide by a power of ten. A power that is itself too large is divided off first; after two
such steps nothing is left. -/
def divideByPower : Nat → Binary64.Magnitude → Nat → Binary64.Magnitude
  | 0, x, _ => x
  | bound + 1, x, n =>
    if n ≤ 308 then ((Binary64.powerOfTen? n).bind (Binary64.div? x)).getD x
    else if x.1 = 0 then x
    else
      divideByPower bound (((Binary64.powerOfTen? 308).bind (Binary64.div? x)).getD x) (n - 308)

/-- The float of a significand and a decimal exponent, in one rounded step for each factor;
`none` beyond the greatest number. -/
def floatOfParts? (negative : Bool) (significand : Nat) (exponent : Int) : Option Binary64 := do
  let x ← Binary64.nearest? significand 1
  let (m, q) ←
    if 0 ≤ exponent then
      if exponent ≤ 308 then (Binary64.powerOfTen? exponent.toNat).bind (Binary64.mul? x)
      else if significand = 0 then some x
      else none
    else some (divideByPower 4 x (-exponent).toNat)
  return .finite negative m q

/-- The float of a significand and an exponent, or an error if it is out of range. -/
def finishFloat (negative : Bool) (significand : Nat) (exponent : Int) (rest : List Char) :
    Except DecodeError (JsonNumber × List Char) :=
  match floatOfParts? negative significand exponent with
  | some x => .ok (.float x, rest)
  | none => .error .malformed

/-- The greatest exponent that is taken at its value: the greatest signed integer of 32 bits. -/
def maxWrittenExponent : Nat := 2147483647

/-- Read an exponent from behind its `e` and finish the number. -/
def readExponent (negative : Bool) (significand : Nat) (exponent : Int) (cs : List Char) :
    Except DecodeError (JsonNumber × List Char) :=
  let (minus, digits) :=
    match cs with
    | '+' :: rest => (false, rest)
    | '-' :: rest => (true, rest)
    | _ => (false, cs)
  match digits with
  | [] => .error .truncated
  | c :: _ =>
    if !c.isDigit then .error .malformed
    else
      let written := Text.ofDigits (digits.takeWhile Char.isDigit)
      let rest := digits.dropWhile Char.isDigit
      if maxWrittenExponent < written then
        if significand ≠ 0 && !minus then .error .malformed
        else .ok (.float (.finite negative 0 Binary64.minExponent), rest)
      else
        finishFloat negative significand
          (if minus then exponent - written else exponent + written) rest

/-- Read what follows the digits of a float: an exponent, or nothing. -/
def readFloatEnd (negative : Bool) (significand : Nat) (exponent : Int) (cs : List Char) :
    Except DecodeError (JsonNumber × List Char) :=
  match cs with
  | e :: rest =>
    if e = 'e' || e = 'E' then readExponent negative significand exponent rest
    else finishFloat negative significand exponent cs
  | [] => finishFloat negative significand exponent cs

/-- Read a fraction from behind its point and finish the number. -/
def readFraction (negative : Bool) (significand : Nat) (exponent : Int) (cs : List Char) :
    Except DecodeError (JsonNumber × List Char) :=
  match cs with
  | [] => .error .truncated
  | c :: _ =>
    if !c.isDigit then .error .malformed
    else
      let (significand, count) := absorb significand (cs.takeWhile Char.isDigit)
      readFloatEnd negative significand (exponent - count) (cs.dropWhile Char.isDigit)

/-- The integer of a magnitude and a sign. Minus zero and integers below 64 bits are floats. -/
def integerNumber (negative : Bool) (magnitude : Nat) : JsonNumber :=
  if !negative then .integer magnitude
  else if 0 < magnitude && Int64.minValue.toInt ≤ -magnitude then .integer (-magnitude)
  else
    match Binary64.nearest? magnitude 1 with
    | some (m, q) => .float (.finite true m q)
    | none => .float (.infinite true)

/-- Finish a number behind its whole digits, of which `dropped` did not fit 64 bits. -/
def finishNumber (negative : Bool) (significand dropped : Nat) (cs : List Char) :
    Except DecodeError (JsonNumber × List Char) :=
  match cs with
  | '.' :: rest => readFraction negative significand dropped rest
  | e :: rest =>
    if e = 'e' || e = 'E' then readExponent negative significand dropped rest
    else if dropped = 0 then .ok (integerNumber negative significand, cs)
    else finishFloat negative significand dropped cs
  | [] =>
    if dropped = 0 then .ok (integerNumber negative significand, cs)
    else finishFloat negative significand dropped cs

/-- Read a number from behind its sign. -/
def readMagnitude (negative : Bool) (cs : List Char) :
    Except DecodeError (JsonNumber × List Char) :=
  match cs with
  | [] => .error .truncated
  | c :: rest =>
    if !c.isDigit then .error .malformed
    else if c = '0' then
      if rest.head?.any Char.isDigit then .error .malformed else finishNumber negative 0 0 rest
    else
      let digits := cs.takeWhile Char.isDigit
      let (significand, count) := absorb 0 digits
      finishNumber negative significand (digits.length - count) (cs.dropWhile Char.isDigit)

/-- Does a number stand in front? -/
def startsNumber (c : Char) : Bool := c = '-' || c.isDigit

/-- Read a number. -/
def readNumber (cs : List Char) : Except DecodeError (JsonNumber × List Char) :=
  match cs with
  | '-' :: rest => readMagnitude true rest
  | _ => readMagnitude false cs

/-! ### Values -/

/-- Read what a value begins with: all of a scalar, or an opening bracket. -/
def readHead (cs : List Char) : Except DecodeError (Head × List Char) :=
  match skipBlank cs with
  | [] => .error .truncated
  | c :: rest => do
    if c = 'n' then .ok (.null, ← readWord ['u', 'l', 'l'] rest)
    else if c = 't' then .ok (.bool true, ← readWord ['r', 'u', 'e'] rest)
    else if c = 'f' then .ok (.bool false, ← readWord ['a', 'l', 's', 'e'] rest)
    else if c = '"' then
      let (value, rest) ← readText rest
      .ok (.text value, rest)
    else if startsNumber c then
      let (value, rest) ← readNumber (c :: rest)
      .ok (.number value, rest)
    else if c = '[' then .ok (.array, rest)
    else if c = '{' then .ok (.object, rest)
    else .error .malformed

/-- What may follow in an array or object. -/
inductive Following where
  /-- Another entry, which begins here. -/
  | entry (cs : List Char)
  /-- The end; what is left begins with the closing bracket. -/
  | close (rest : List Char)

/-- Look for the next entry of a list with this closing bracket. -/
def following (closing : Char) (first : Bool) (cs : List Char) : Except DecodeError Following :=
  match skipBlank cs with
  | [] => .error .truncated
  | c :: rest =>
    if c = closing then .ok (.close (c :: rest))
    else if first then .ok (.entry (c :: rest))
    else if c = ',' then
      match skipBlank rest with
      | [] => .error .truncated
      | d :: after => if d = closing then .error .malformed else .ok (.entry (d :: after))
    else .error .malformed

/-- Read the key of an object from its opening quote on. -/
def readKey (cs : List Char) : Except DecodeError (String × List Char) :=
  match cs with
  | '"' :: rest => readText rest
  | _ => .error .malformed

/-- Read the colon behind a key. -/
def readColon (cs : List Char) : Except DecodeError (List Char) :=
  match skipBlank cs with
  | [] => .error .truncated
  | ':' :: rest => .ok rest
  | _ => .error .malformed

/-- Read the items of an array to its end, at most `bound` of them. -/
def readItems (item : List Char → Except DecodeError (Json × List Char)) :
    Nat → Bool → List Char → Except DecodeError (List Json × List Char)
  | 0, _, _ => .error .truncated
  | bound + 1, first, cs => do
    match ← following ']' first cs with
    | .close rest => .ok ([], rest.drop 1)
    | .entry cs =>
      let (value, rest) ← item cs
      let (values, rest) ← readItems item bound false rest
      .ok (value :: values, rest)

/-- Read the fields of an object to its end, at most `bound` of them. -/
def readFields (item : List Char → Except DecodeError (Json × List Char)) :
    Nat → Bool → List Char → Except DecodeError (List (String × Json) × List Char)
  | 0, _, _ => .error .truncated
  | bound + 1, first, cs => do
    match ← following '}' first cs with
    | .close rest => .ok ([], rest.drop 1)
    | .entry cs =>
      let (key, rest) ← readKey cs
      let rest ← readColon rest
      let (value, rest) ← item rest
      let (fields, rest) ← readFields item bound false rest
      .ok ((key, value) :: fields, rest)

/-- Read a value of limited nesting depth. -/
def readValue : Nat → List Char → Except DecodeError (Json × List Char)
  | 0, _ => .error .malformed
  | depth + 1, cs => do
    let (head, rest) ← readHead cs
    match head with
    | .null => .ok (.null, rest)
    | .bool value => .ok (.bool value, rest)
    | .number value => .ok (.number value, rest)
    | .text value => .ok (.text value, rest)
    | .array =>
      if depth = 0 then .error .malformed
      else
        let (items, rest) ← readItems (readValue depth) (rest.length + 1) true rest
        .ok (.array items, rest)
    | .object =>
      if depth = 0 then .error .malformed
      else
        let (fields, rest) ← readFields (readValue depth) (rest.length + 1) true rest
        .ok (.object fields, rest)

/-- How deep values may be nested. -/
def maxDepth : Nat := 128

/-- Nothing but blank space may be left. -/
def atEnd (cs : List Char) : Except DecodeError Unit :=
  if (skipBlank cs).isEmpty then .ok () else .error .malformed

/-- Read characters that hold one value. -/
def parseChars (cs : List Char) : Except DecodeError Json := do
  let (value, rest) ← readValue maxDepth cs
  atEnd rest
  .ok value

/-! ### Values that are passed over -/

/-- Pass over a text from behind its opening quote. Halves of pairs may stand alone here. -/
def skipTextFrom : TextState → List Char → Except DecodeError (List Char)
  | _, [] => .error .truncated
  | state, c :: rest =>
    match state with
    | .plain =>
      if c = '"' then .ok rest
      else if c = '\\' then skipTextFrom .escape rest
      else if c.toNat < 0x20 then .error .malformed
      else skipTextFrom .plain rest
    | .escape =>
      if (simpleEscape? c).isSome then skipTextFrom .plain rest
      else if c = 'u' then
        if isShort rest then .error .truncated else skipTextFrom (.code none 0 0) rest
      else .error .malformed
    | .code high digits value =>
      if (Literal.hexDigit? c).isNone then .error .malformed
      else if digits < 3 then skipTextFrom (.code high (digits + 1) value) rest
      else skipTextFrom .plain rest
    | _ => .error .malformed

/-- Pass over digits, of which there has to be one. -/
def skipDigits (cs : List Char) : Except DecodeError (List Char) :=
  if cs.head?.any Char.isDigit then .ok (cs.dropWhile Char.isDigit) else .error .malformed

/-- Pass over an exponent, if there is one. -/
def skipExponent (cs : List Char) : Except DecodeError (List Char) :=
  match cs with
  | e :: rest =>
    if e = 'e' || e = 'E' then
      match rest with
      | '+' :: digits => skipDigits digits
      | '-' :: digits => skipDigits digits
      | digits => skipDigits digits
    else .ok cs
  | [] => .ok cs

/-- Pass over a number from behind its sign. Its size does not matter, and a number that is cut
off is malformed. -/
def skipNumber (cs : List Char) : Except DecodeError (List Char) := do
  let whole ←
    match cs with
    | '0' :: rest => if rest.head?.any Char.isDigit then .error .malformed else .ok rest
    | _ => skipDigits cs
  match whole with
  | '.' :: fraction => skipExponent (← skipDigits fraction)
  | _ => skipExponent whole

/-- Pass over a key, the colon behind it, and blank space. -/
def skipKey (cs : List Char) : Except DecodeError (List Char) :=
  match skipBlank cs with
  | [] => .error .truncated
  | '"' :: rest => do readColon (← skipTextFrom .plain rest)
  | _ => .error .malformed

/-- Pass over one value. `enclosing` holds the closing brackets of the arrays and objects around
it. -/
def skipValueFrom : Nat → List Char → List Char → Except DecodeError (List Char)
  | 0, _, _ => .error .truncated
  | bound + 1, enclosing, cs =>
    match skipBlank cs with
    | [] => .error .truncated
    | c :: rest => do
      if c = 'n' then closeAll bound enclosing (← readWord ['u', 'l', 'l'] rest)
      else if c = 't' then closeAll bound enclosing (← readWord ['r', 'u', 'e'] rest)
      else if c = 'f' then closeAll bound enclosing (← readWord ['a', 'l', 's', 'e'] rest)
      else if c = '"' then closeAll bound enclosing (← skipTextFrom .plain rest)
      else if c = '-' then closeAll bound enclosing (← skipNumber rest)
      else if c.isDigit then closeAll bound enclosing (← skipNumber cs)
      else if c = '[' || c = '{' then
        let closing := if c = '[' then ']' else '}'
        match skipBlank rest with
        | [] => .error .truncated
        | d :: after =>
          if d = closing then closeAll bound enclosing after
          else if c = '{' then
            skipValueFrom bound (closing :: enclosing) (← skipKey (d :: after))
          else skipValueFrom bound (closing :: enclosing) (d :: after)
      else .error .malformed
where
  /-- Go on behind a value: close brackets, or pass over the next value. -/
  closeAll : Nat → List Char → List Char → Except DecodeError (List Char)
    | _, [], cs => .ok cs
    | 0, _ :: _, _ => .error .truncated
    | bound + 1, closing :: enclosing, cs =>
      match skipBlank cs with
      | [] => .error .truncated
      | c :: rest => do
        if c = closing then closeAll bound enclosing rest
        else if c = ',' then
          if closing = '}' then skipValueFrom bound (closing :: enclosing) (← skipKey rest)
          else skipValueFrom bound (closing :: enclosing) rest
        else .error .malformed

/-- Pass over one value. -/
def skipValue (cs : List Char) : Except DecodeError (List Char) :=
  skipValueFrom (2 * cs.length + 2) [] cs

end Json

end FallbackEnum
