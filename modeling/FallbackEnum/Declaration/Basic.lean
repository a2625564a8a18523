import FallbackEnum.Token.Name

/-!
# Declarations

An enum as it is declared: attributes, visibility, name, generics, and variants. Parts that
nothing looks into, such as types and expressions, are kept as code. Items of other kinds are
code altogether. Only variants and items remember where they were read.
-/

namespace FallbackEnum

/-! ### Attributes -/

/-- A path of plain names, such as `serde::rename`. -/
structure ModPath where
  leadingColons : Bool := false
  segments : List String
deriving DecidableEq, Repr

namespace ModPath

/-- The name, when the path is one plain name. -/
def name? (path : ModPath) : Option String :=
  match path.leadingColons, path.segments with
  | false, [name] => some name
  | _, _ => none

/-- Is the path just this name? -/
def isName (path : ModPath) (name : String) : Bool := path.name? = some name

/-- Names with `::` between them. -/
def segmentTokens : List String → List Token
  | [] => []
  | [name] => [.word name]
  | name :: rest => .word name :: Token.operator "::" ++ segmentTokens rest

/-- The code of a path. -/
def tokens (path : ModPath) : List Token :=
  (if path.leadingColons then Token.operator "::" else []) ++ segmentTokens path.segments

end ModPath

/-- Generic arguments: code in angle brackets, perhaps behind `::`. -/
structure AngleArguments where
  colons : Bool
  inner : List Token
deriving DecidableEq, Repr

/-- The code of generic arguments. -/
def AngleArguments.tokens (arguments : AngleArguments) : List Token :=
  (if arguments.colons then Token.operator "::" else []) ++ Token.operator "<" ++
    arguments.inner ++ Token.operator ">"

/-- A segment of a path: a name, perhaps with generic arguments. -/
structure PathSegment where
  name : String
  isPathName : Keyword.isPathName name = true := by decide
  arguments : Option AngleArguments := none
deriving DecidableEq, Repr

/-- The code of a segment. -/
def PathSegment.tokens (segment : PathSegment) : List Token :=
  .word segment.name :: (segment.arguments.map AngleArguments.tokens).getD []

/-- A path whose segments may have generic arguments, such as the name of a trait. -/
structure TraitPath where
  leadingColons : Bool := false
  first : PathSegment
  rest : List PathSegment := []
deriving DecidableEq, Repr

namespace TraitPath

/-- The segments, of which there is at least one. -/
def segments (path : TraitPath) : List PathSegment := path.first :: path.rest

/-- The last segment. -/
def lastSegment (path : TraitPath) : PathSegment := path.rest.getLastD path.first

/-- The name of the last segment. -/
def last (path : TraitPath) : String := path.lastSegment.name

/-- Does no segment have generic arguments? -/
def isPlain (path : TraitPath) : Bool := path.segments.all (·.arguments.isNone)

/-- The code of a path. -/
def code (path : TraitPath) : List Token :=
  (if path.leadingColons then Token.operator "::" else []) ++ path.first.tokens ++
    path.rest.flatMap fun segment => Token.operator "::" ++ segment.tokens

end TraitPath

/-- Pieces of code with commas between them, and perhaps one at the end. -/
def commaSeparated (trailing : Bool) : List (List Token) → List Token
  | [] => []
  | [last] => last ++ if trailing then Token.operator "," else []
  | piece :: rest => piece ++ Token.operator "," ++ commaSeparated trailing rest

/-- What follows the path of an attribute. -/
inductive AttributeBody where
  /-- Nothing. -/
  | bare
  /-- Arguments between delimiters, kept as they were written. -/
  | list (delimiter : Delimiter) (arguments : List Token)
  /-- A list of traits that was put together. -/
  | traits (paths : List TraitPath)
  /-- A value behind `=`. -/
  | value (expr : List Token)
deriving DecidableEq, Repr

/-- An attribute `#[…]`. -/
structure Attribute where
  path : ModPath
  body : AttributeBody
deriving DecidableEq, Repr

namespace Attribute

/-- Does the attribute have exactly this name? -/
def isNamed (attr : Attribute) (name : String) : Bool := attr.path.isName name

/-- The arguments of an attribute that has some. -/
def arguments? (attr : Attribute) : Option (List Token) :=
  match attr.body with
  | .list _ arguments => some arguments
  | .traits paths => some (commaSeparated false (paths.map TraitPath.code))
  | _ => none

/-- The code between the brackets. -/
def metaTokens (attr : Attribute) : List Token :=
  attr.path.tokens ++
    match attr.body with
    | .bare => []
    | .list delimiter arguments => [Token.delimited delimiter arguments]
    | .traits paths => Token.parens (commaSeparated false (paths.map TraitPath.code))
    | .value expr => Token.operator "=" ++ expr

/-- The code of an attribute. -/
def tokens (attr : Attribute) : List Token :=
  Token.operator "#" ++ Token.brackets attr.metaTokens

end Attribute

/-! ### Variants -/

/-- The fields of a variant. -/
inductive Fields where
  | unit
  | tuple (fields : List Token)
  | record (fields : List Token)
deriving DecidableEq, Repr

namespace Fields

/-- Does the variant carry no fields, not even an empty list of them? -/
def isUnit : Fields → Bool
  | unit => true
  | _ => false

/-- The code of fields. -/
def tokens : Fields → List Token
  | unit => []
  | tuple fields => Token.parens fields
  | record fields => Token.braces fields

end Fields

/-- The text that an expression denotes, when it is a text literal, attributes aside. -/
def textLiteral? : List Token → Option String
  | [.literal _ text] =>
    match Literal.value text with
    | .text value => some value
    | _ => none
  | .punct _ '#' _ :: .group _ .bracket _ :: rest => textLiteral? rest
  | _ => none

/-- A variant of an enum. -/
structure Variant where
  attrs : List Attribute := []
  ident : Name
  fields : Fields := .unit
  discriminant : Option (List Token) := none
  span : Span := Span.nowhere
deriving DecidableEq, Repr

namespace Variant

/-- The name as it is spelled. -/
def name (v : Variant) : String := v.ident.text

/-- The text of the discriminant, when that is a text literal. -/
def textLiteral? (v : Variant) : Option String := v.discriminant.bind FallbackEnum.textLiteral?

/-- The text behind a variant of a text enum: its literal, or else its name. -/
def textValue (v : Variant) : String := v.textLiteral?.getD (Keyword.unraw v.name)

/-- The code of a variant. -/
def tokens (v : Variant) : List Token :=
  v.attrs.flatMap Attribute.tokens ++ [.word v.name] ++ v.fields.tokens ++
    match v.discriminant with
    | none => []
    | some expr => Token.operator "=" ++ expr

end Variant

/-! ### Enums and other items -/

/-- Who can see an item. -/
inductive Visibility where
  | inherited
  | everywhere
  | restricted (scope : List Token)
deriving DecidableEq, Repr

namespace Visibility

/-- The code of a visibility. -/
def tokens : Visibility → List Token
  | inherited => []
  | everywhere => [.word "pub"]
  | restricted scope => .word "pub" :: Token.parens scope

end Visibility

/-- An enum declaration. -/
structure EnumDecl where
  attrs : List Attribute := []
  visibility : Visibility := .inherited
  ident : Name
  generics : List Token := []
  whereClause : List Token := []
  variants : List Variant := []
  trailingComma : Bool := false
  span : Span := Span.nowhere
deriving DecidableEq, Repr

namespace EnumDecl

/-- The name as it is spelled. -/
def name (decl : EnumDecl) : String := decl.ident.text

/-- The code of an enum. -/
def tokens (decl : EnumDecl) : List Token :=
  decl.attrs.flatMap Attribute.tokens ++ decl.visibility.tokens ++
    [.word "enum", .word decl.name] ++ decl.generics ++ decl.whereClause ++
    Token.braces (commaSeparated decl.trailingComma (decl.variants.map Variant.tokens))

/-- Add a variant at the end, without a comma after it. -/
def push (decl : EnumDecl) (v : Variant) : EnumDecl :=
  { decl with variants := decl.variants ++ [v], trailingComma := false }

/-- Is there a variant with exactly this name? -/
def hasVariant (decl : EnumDecl) (name : String) : Bool :=
  decl.variants.any fun v => v.name = name

end EnumDecl

/-- An item: an enum, or code of any other kind. -/
inductive Item where
  | enum (decl : EnumDecl)
  | other (code : List Token) (span : Span)
deriving DecidableEq, Repr

namespace Item

/-- The code of an item. -/
def tokens : Item → List Token
  | enum decl => decl.tokens
  | other code _ => code

/-- Where the item was read. -/
def span : Item → Span
  | enum decl => decl.span
  | other _ span => span

/-- The enum, if the item is one. -/
def enum? : Item → Option EnumDecl
  | enum decl => some decl
  | other _ _ => none

end Item

end FallbackEnum
