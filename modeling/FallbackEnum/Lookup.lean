import FallbackEnum.Configuration
import FallbackEnum.Declaration.Basic
import FallbackEnum.Token.Code

/-!
# Raw value lookup

The generated mapping between variants and raw values. For text it is a table of variants and
texts. For integers it is the list of variants, whose numbers are those of the enum itself. In
both, the first entry that matches wins.
-/

namespace FallbackEnum

/-- The generated lookup of an enum. -/
inductive RawLookup where
  /-- Variants with their texts. -/
  | text (enumName : String) (arms : List (String × String))
  /-- Variants, to be compared by number. -/
  | integer (enumName : String) (arms : List String)
deriving DecidableEq, Repr

namespace RawLookup

/-! ### Meaning -/

/-- The variants of the arms, in order. -/
def variantNames : RawLookup → List String
  | text _ arms => arms.map Prod.fst
  | integer _ arms => arms

/-- The variant of the first arm with this text. -/
def ofText? (arms : List (String × String)) (value : String) : Option String :=
  (arms.find? fun arm => arm.2 = value).map Prod.fst

/-- The text of the first arm with this variant. -/
def textOf? (arms : List (String × String)) (variant : String) : Option String :=
  (arms.find? fun arm => arm.1 = variant).map Prod.snd

/-- The variant of the first arm with this number, for a numbering of the variants. -/
def ofNumber? (arms : List String) (number : String → Int64) (value : Int64) : Option String :=
  arms.find? fun arm => number arm = value

/-- The variant with a raw value, if there is one. Numbers are those of the enum. -/
def fromRaw? (lookup : RawLookup) (number : String → Int64) (value : RawValue) : Option String :=
  match lookup, value with
  | text _ arms, .text value => ofText? arms value
  | integer _ arms, .integer value => ofNumber? arms number value
  | _, _ => none

/-- The raw value of a variant, if the lookup has it. -/
def rawValue? (lookup : RawLookup) (number : String → Int64) (variant : String) :
    Option RawValue :=
  match lookup with
  | text _ arms => (textOf? arms variant).map .text
  | integer _ arms => if variant ∈ arms then some (.integer (number variant)) else none

/-! ### Code -/

/-- The code `Self::Variant`. -/
def selfPath (variant : String) : List Token := Token.words "Self ::" ++ [.word variant]

/-- The code `Some(Self::Variant)`, in full. -/
def someSelf (variant : String) : List Token :=
  Token.words ":: core :: option :: Option :: Some" ++ Token.parens (selfPath variant)

/-- The code `None`, in full. -/
def noneCode : List Token := Token.words ":: core :: option :: Option :: None"

/-- The code of a text literal. -/
def textCode (value : String) : List Token := (RawValue.text value).tokens

/-- The body that finds a variant by its text. -/
def fromTextBody (arms : List (String × String)) : List Token :=
  Token.words "match raw_value . as_str" ++ Token.parens [] ++
    Token.braces
      ((arms.flatMap fun (variant, value) =>
          textCode value ++ Token.operator "=>" ++ someSelf variant ++ Token.operator ",") ++
        Token.words "_ =>" ++ noneCode ++ Token.operator ",")

/-- The body that gives the text of a variant. -/
def toTextBody (arms : List (String × String)) : List Token :=
  Token.words "let raw_value : & str = match self" ++
    Token.braces
      (arms.flatMap fun (variant, value) =>
        selfPath variant ++ Token.operator "=>" ++ textCode value ++ Token.operator ",") ++
    Token.words "; :: std :: borrow :: ToOwned :: to_owned" ++
    Token.parens (Token.words "raw_value")

/-- The body that finds a variant by its number. -/
def fromNumberBody (arms : List String) : List Token :=
  (arms.flatMap fun variant =>
      Token.words "if raw_value ==" ++ Token.parens (selfPath variant ++ Token.words "as i64") ++
        Token.braces (Token.words "return" ++ someSelf variant ++ Token.operator ";")) ++
    noneCode

/-- The body that gives the number of a variant. -/
def toNumberBody (arms : List String) : List Token :=
  Token.words "match self" ++
    Token.braces
      (arms.flatMap fun variant =>
        selfPath variant ++ Token.operator "=>" ++ selfPath variant ++
          Token.words "as i64 ,")

/-- The implementation of the lookup for an enum, from its raw type and its two bodies. -/
def implementation (enumName : String) (scalar fromBody toBody : List Token) : List Token :=
  Token.words "impl :: safe_decode :: RawRepresentable for" ++ [.word enumName] ++
    Token.braces
      (Token.words "type RawValue =" ++ scalar ++ Token.words "; fn from_raw_value" ++
        Token.parens (Token.words "raw_value : Self :: RawValue") ++
        Token.words "-> :: core :: option :: Option < Self >" ++ Token.braces fromBody ++
        Token.words "fn raw_value" ++ Token.parens (Token.words "& self") ++
        Token.words "-> Self :: RawValue" ++ Token.braces toBody)

/-- The code of the lookup. -/
def tokens : RawLookup → List Token
  | text enumName arms =>
    implementation enumName RawKind.text.scalarType (fromTextBody arms) (toTextBody arms)
  | integer enumName arms =>
    implementation enumName RawKind.integer.scalarType (fromNumberBody arms) (toNumberBody arms)

end RawLookup

namespace EnumDecl

/-- The arm of a fallback that is not declared, if its raw value is a text. -/
def fallbackArm (decl : EnumDecl) (config : Configuration) : List (String × String) :=
  if decl.hasVariant config.safeCase then []
  else
    match config.fallback with
    | .text literal => [(config.safeCase, literal)]
    | .integer _ => []

/-- The lookup of an enum under a configuration; a fallback that is not declared comes last. -/
def lookup (decl : EnumDecl) (config : Configuration) : RawLookup :=
  match config.kind with
  | .text =>
    .text decl.name
      (decl.variants.map (fun v => (v.name, v.textValue)) ++ decl.fallbackArm config)
  | .integer =>
    .integer decl.name
      (decl.variants.map Variant.name ++
        if decl.hasVariant config.safeCase then [] else [config.safeCase])

end EnumDecl

end FallbackEnum
