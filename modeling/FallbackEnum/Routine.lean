import FallbackEnum.Configuration
import FallbackEnum.Declaration.Basic
import FallbackEnum.Lookup
import FallbackEnum.Token.Code

/-!
# Generated members

The fallback variant, the routine that decodes one raw value, and the implementation that lets
values be decoded by it.
-/

namespace FallbackEnum

/-! ### Fallback -/

/-- The documentation of a generated fallback. -/
def fallbackDoc : Attribute :=
  { path := { segments := ["doc"] }
    body := .value [.lit (Text.quoted "Any raw value that matches no other variant.")] }

/-- A generated fallback. -/
def Configuration.fallbackVariant (config : Configuration) : Variant :=
  { attrs := [fallbackDoc], ident := config.fallbackName
    discriminant := some config.fallback.tokens }

@[simp] theorem Configuration.fallbackVariant_name (config : Configuration) :
    config.fallbackVariant.name = config.safeCase := rfl

namespace EnumDecl

/-- The fallback that is to be added: none if one is declared. -/
def missingFallback? (decl : EnumDecl) (config : Configuration) : Option Variant :=
  if decl.hasVariant config.safeCase then none else some config.fallbackVariant

end EnumDecl

/-! ### Decoding -/

/-- A line of documentation in generated code. -/
def docLine (text : String) : List Token :=
  Token.operator "#" ++ Token.brackets (Token.words "doc =" ++ [.lit ("r\"" ++ text ++ "\"")])

/-- The routine that decodes one raw value: it reads a scalar of the kind and looks it up; a
value that no variant has becomes the fallback. -/
structure DecodeRoutine where
  kind : RawKind
  safeCase : String
deriving DecidableEq, Repr

namespace DecodeRoutine

/-- The name of the routine. -/
def name : String := "from_decoder"

/-- The routine for a configuration. -/
def ofConfiguration (config : Configuration) : DecodeRoutine := ⟨config.kind, config.safeCase⟩

/-- The code of the routine. -/
def tokens (routine : DecodeRoutine) : List Token :=
  docLine " Decode a single raw value, mapping unrecognized values to the" ++
    docLine " fallback variant. Errors from the deserializer are returned as is." ++
    Token.words "pub fn" ++ [.word name] ++ Token.words "< 'de , D >" ++
    Token.parens (Token.words "decoder : D") ++
    Token.words "-> :: core :: result :: Result < Self , D :: Error > where D :" ++
    Token.words ":: safe_decode :: __private :: serde :: Deserializer < 'de > ," ++
    Token.braces
      (Token.words "let raw_value = <" ++ routine.kind.scalarType ++
        Token.words "as :: safe_decode :: __private :: serde :: Deserialize < 'de > >" ++
        Token.words ":: deserialize" ++ Token.parens (Token.words "decoder") ++
        Token.words "? ; :: core :: result :: Result :: Ok" ++
        Token.parens
          (Token.words "< Self as :: safe_decode :: RawRepresentable > :: from_raw_value_or" ++
            Token.parens
              (Token.words "raw_value ," ++ RawLookup.selfPath routine.safeCase ++
                Token.operator ",") ++
            Token.operator ","))

end DecodeRoutine

/-- The implementation that decodes an enum by its routine. -/
structure Conformance where
  enumName : String
deriving DecidableEq, Repr

namespace Conformance

/-- The code of the implementation. -/
def tokens (conformance : Conformance) : List Token :=
  Token.words "impl < 'de > :: safe_decode :: __private :: serde :: Deserialize < 'de > for" ++
    [.word conformance.enumName] ++
    Token.braces
      (Token.words "fn deserialize < D >" ++ Token.parens (Token.words "deserializer : D") ++
        Token.words "-> :: core :: result :: Result < Self , D :: Error > where D :" ++
        Token.words ":: safe_decode :: __private :: serde :: Deserializer < 'de > ," ++
        Token.braces
          (RawLookup.selfPath DecodeRoutine.name ++ Token.parens (Token.words "deserializer")))

end Conformance

end FallbackEnum
