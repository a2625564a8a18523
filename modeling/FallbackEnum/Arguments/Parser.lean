import FallbackEnum.Arguments.Basic
import FallbackEnum.Token.Literal

/-!
# Reading arguments

Arguments are a list `key = value` with commas between, and perhaps one after the last. They are
read from left to right and the first fault is reported: at the token where it shows, or nowhere
at the end of the input. A group shows by its opening delimiter.
-/

namespace FallbackEnum

namespace Arguments

/-- The tokens of arguments. -/
abbrev Input := List (TokenTree Span)

/-! ### Places -/

/-- The place where a token shows. -/
def tokenSpan : TokenTree Span → Span
  | .group span _ _ => span.first
  | token => token.mark

/-- The place where an input shows. -/
def inputSpan : Input → Span
  | [] => Span.nowhere
  | token :: _ => tokenSpan token

/-- A fault at the front of the input. -/
def failAt {β : Type} (input : Input) (fault : ArgumentFault) : Except ArgumentError β :=
  .error ⟨fault, inputSpan input⟩

/-! ### Punctuation -/

/-- Does a token consist of this punctuation character? -/
def isPunct (c : Char) : TokenTree Span → Bool
  | .punct _ d _ => c = d
  | _ => false

/-- Read one `=`. -/
def equals (input : Input) : Except ArgumentError Input :=
  match input with
  | .punct _ '=' _ :: rest => .ok rest
  | _ => failAt input .expectedEquals

/-! ### Values -/

/-- A literal where an argument value is due: its value, the sign that is part of it, its
place. -/
structure SignedLiteral where
  negative : Bool
  value : Literal.Value
  span : Span

/-- Is this the value of a number? -/
def isNumber : Literal.Value → Bool
  | .integer _ => true
  | .fraction => true
  | _ => false

/-- Read a literal. A truth value is one, and so is a number behind a minus sign. -/
def literal (input : Input) : Except ArgumentError (SignedLiteral × Input) :=
  match input with
  | .literal span text :: rest => .ok (⟨false, Literal.value text, span⟩, rest)
  | .ident span name :: rest =>
    if name = "true" ∨ name = "false" then .ok (⟨false, .other, span⟩, rest)
    else failAt input (.expectedLiteral false)
  | .punct sign '-' _ :: .literal span text :: rest =>
    if isNumber (Literal.value text) then
      .ok (⟨true, Literal.value text, sign.through span⟩, rest)
    else failAt input (.expectedLiteral false)
  | [] => failAt input (.expectedLiteral true)
  | _ => failAt input (.expectedLiteral false)

/-- The raw value that a literal denotes behind an optional minus sign. A second sign never
denotes one. -/
def rawValueOf (negated : Bool) (lit : SignedLiteral) : Except ArgumentError RawValue :=
  match lit.value with
  | .text s => if negated then .error ⟨.unsuitableLiteral, lit.span⟩ else .ok (.text s)
  | .integer m =>
    let value? :=
      match negated, lit.negative with
      | true, true => none
      | false, false => RawValue.ofInt? m
      | _, _ => RawValue.ofInt? (-m)
    match value? with
    | some value => .ok value
    | none => .error ⟨.integerRange, lit.span⟩
  | _ => .error ⟨.unsuitableLiteral, lit.span⟩

/-- Read a raw value. -/
def rawValue? (input : Input) : Except ArgumentError (RawValue × Input) :=
  let (negated, body) :=
    match input with
    | .punct _ '-' _ :: rest => (true, rest)
    | _ => (false, input)
  match literal body with
  | .error e => .error e
  | .ok (lit, rest) =>
    match rawValueOf negated lit with
    | .error e => .error e
    | .ok value => .ok (value, rest)

/-- Read a name. An identifier of a source is one unless it is a keyword. -/
def identifier (input : Input) : Except ArgumentError (Name × Input) :=
  match input with
  | .ident _ text :: rest =>
    if Keyword.isReserved text then failAt input (.keyword text)
    else
      match Name.ofText? text with
      | some name => .ok (name, rest)
      | none => failAt input (.expectedIdentifier false)
  | [] => failAt input (.expectedIdentifier true)
  | _ => failAt input (.expectedIdentifier false)

/-! ### Entries -/

/-- Read one entry and add it to the arguments read before. -/
def entry (args : Arguments) (input : Input) : Except ArgumentError (Arguments × Input) :=
  match input with
  | .ident span name :: rest =>
    if name = "raw_value" then do
      let rest ← equals rest
      if args.rawValue.isSome then .error ⟨.duplicateRawValue, span⟩
      else
        let (value, rest) ← rawValue? rest
        .ok ({ args with rawValue := some value }, rest)
    else if name = "safe_case" then do
      let rest ← equals rest
      if args.fallbackName.isSome then .error ⟨.duplicateSafeCase, span⟩
      else
        let (name, rest) ← identifier rest
        .ok ({ args with fallbackName := some name }, rest)
    else failAt input .expectedKey
  | _ => failAt input .expectedKey

/-- Read what stands between two entries: a comma, or the end of the input. -/
def separator (input : Input) : Except ArgumentError Input :=
  match input with
  | [] => .ok []
  | .punct _ ',' _ :: rest => .ok rest
  | _ => failAt input .expectedComma

/-- Read entries to the end of the input. The bound counts entries, each of which has tokens. -/
def entries : Nat → Arguments → Input → Except ArgumentError Arguments
  | _, args, [] => .ok args
  | 0, args, _ :: _ => .ok args
  | bound + 1, args, input => do
    let (args, rest) ← entry args input
    let rest ← separator rest
    entries bound args rest

/-- Read arguments from their tokens. -/
def parse (input : Input) : Except ArgumentError Arguments := entries input.length {} input

end Arguments

end FallbackEnum
