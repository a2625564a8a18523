import FallbackEnum.RawValue
import FallbackEnum.Token.Name

/-!
# Arguments of an expansion

An expansion takes two optional arguments: the name of the fallback variant, and its raw value.
-/

namespace FallbackEnum

/-- The arguments as they were given. -/
structure Arguments where
  rawValue : Option RawValue := none
  fallbackName : Option Name := none
deriving DecidableEq, Repr, Inhabited

/-- The name of the fallback as it is spelled, if one was given. -/
def Arguments.safeCase (args : Arguments) : Option String := args.fallbackName.map Name.text

/-- Why arguments cannot be read. -/
inductive ArgumentFault where
  /-- Neither of the two keys stands where one is due. -/
  | expectedKey
  /-- No `=` follows a key. -/
  | expectedEquals
  /-- The raw value is given twice. -/
  | duplicateRawValue
  /-- The fallback is named twice. -/
  | duplicateSafeCase
  /-- No literal stands where one is due, perhaps because the input ends. -/
  | expectedLiteral (atEnd : Bool)
  /-- An integer needs more than 64 bits. -/
  | integerRange
  /-- A literal is neither a text nor an integer. -/
  | unsuitableLiteral
  /-- A keyword stands where a name is due. -/
  | keyword (name : String)
  /-- No name stands where one is due, perhaps because the input ends. -/
  | expectedIdentifier (atEnd : Bool)
  /-- No comma follows an argument. -/
  | expectedComma
deriving DecidableEq, Repr

namespace ArgumentFault

/-- What is said at the end of the input. -/
def endNotice (atEnd : Bool) : String := if atEnd then "unexpected end of input, " else ""

/-- The message of a fault. -/
def message : ArgumentFault → String
  | expectedKey => "expected `raw_value` or `safe_case`"
  | expectedEquals => "expected `=`"
  | duplicateRawValue => "duplicate `raw_value` argument"
  | duplicateSafeCase => "duplicate `safe_case` argument"
  | expectedLiteral atEnd => endNotice atEnd ++ "expected literal"
  | integerRange => "integer `raw_value` must fit in i64"
  | unsuitableLiteral => "`raw_value` must be a string or integer literal"
  | keyword name => "expected identifier, found keyword `" ++ name ++ "`"
  | expectedIdentifier atEnd => endNotice atEnd ++ "expected identifier"
  | expectedComma => "expected `,`"

end ArgumentFault

/-- A fault in the arguments and where it was found. -/
structure ArgumentError where
  fault : ArgumentFault
  span : Span
deriving DecidableEq, Repr

end FallbackEnum
