import FallbackEnum.RawEnum

/-!
# A catalog of enums

Declarations of both kinds, ready to be expanded and run: fallbacks that are generated or
declared, texts with awkward characters, names that are keywords, and numbers at the ends of the
range.
-/

namespace FallbackEnum

namespace Catalog

/-! ### Declarations -/

/-- A declaration with the arguments of its expansion. -/
structure Entry where
  decl : EnumDecl
  args : Arguments := {}

/-- The attribute that asks for a raw kind. -/
def reprAttribute (kind : RawKind) : Attribute :=
  { path := { segments := ["repr"] }, body := .list .paren [.word kind.typeName] }

/-- The attribute that derives traits. -/
def deriveAttribute (names : List String) : Attribute :=
  { path := { segments := ["derive"] }
    body := .list .paren (commaSeparated false (names.map fun name => [.word name])) }

/-- A public enum of a kind that derives traits. -/
def declare (kind : RawKind) (name : String) (traits : List String) (variants : List Variant)
    (h : Lexeme.IsName name := by decide +kernel) : EnumDecl where
  attrs := [deriveAttribute traits, reprAttribute kind]
  visibility := .everywhere
  ident := ⟨name, h⟩
  variants := variants
  trailingComma := !variants.isEmpty

/-- A variant without discriminant. -/
def bare (name : String) (h : Lexeme.IsName name := by decide +kernel) : Variant :=
  { ident := ⟨name, h⟩ }

/-- A variant with a text. -/
def text (name value : String) (h : Lexeme.IsName name := by decide +kernel) : Variant :=
  { ident := ⟨name, h⟩, discriminant := some (RawValue.text value).tokens }

/-- A variant with a number. -/
def number (name : String) (value : Int64) (h : Lexeme.IsName name := by decide +kernel) :
    Variant :=
  { ident := ⟨name, h⟩, discriminant := some (RawValue.integer value).tokens }

/-! ### Parts that further examples share -/

def credit : Variant := text "Credit" "CREDIT"

def debit : Variant := text "Debit" "DEBIT"

def low : Variant := number "Low" 1

def high : Variant := number "High" 2

def otherName : Name := { text := "Other" }

/-- The fallback that is added to an enum of integers. -/
def unknown : Variant :=
  Configuration.fallbackVariant ⟨Configuration.defaultName, .integer (-1), .integer⟩

/-! ### Enums of texts -/

/-- Two texts and a generated fallback. -/
def operationType : Entry where
  decl := declare .text "OperationType" ["Debug"] [credit, debit]

/-- A fallback with a name and a text of its own. -/
def availability : Entry where
  decl := declare .text "Availability" ["Debug"]
    [text "InStock" "in_stock", text "SoldOut" "sold_out"]
  args := { fallbackName := some (.mk "None"), rawValue := some (.text "n/a") }

/-- Texts that are the names of the variants. -/
def direction : Entry where
  decl := declare .text "Direction" ["Debug"] [bare "North", bare "South"]

/-- A declared fallback between other variants. -/
def plan : Entry where
  decl := declare .text "Plan" ["Debug"]
    [text "Free" "free", text "Unknown" "legacy" Configuration.defaultName.isName,
      text "Pro" "pro"]

/-- A declared fallback that keeps its own text. -/
def reused : Entry where
  decl := declare .text "Reused" ["Debug"]
    [bare "Other", text "First" "ignored", text "Second" "UNKNOWN"]
  args := { rawValue := some (.text "ignored"), fallbackName := some otherName }

/-- A derived decoding that is replaced. -/
def legacy : Entry where
  decl := declare .text "Legacy" ["Debug", "Deserialize"] [text "Alpha" "a", text "Beta" "b"]

/-- A derived decoding that is replaced beside a derived encoding that stays. -/
def both : Entry where
  decl := declare .text "Both" ["Debug", "Serialize", "Deserialize"]
    [bare "Left", text "Right" "R"]

/-- Texts that need escapes, and a fallback whose name grows in upper case. -/
def escapes : Entry where
  decl := declare .text "Escapes" ["Debug"]
    [text "Empty" "", text "Space" " ", text "Newline" "a\nb", text "Quote" "say \"hi\"",
      text "Raw" "C:\\new\"x\"", text "Nul" "\x00", text "Accent" "\u00e9",
      text "Decomposed" "e\u0301", text "Emoji" "👩\u200d👩\u200d👧", text "Continued" "one two"]
  args := { fallbackName := some (.mk "Straße") }

/-- Variants with names that are keywords. -/
def keywords : Entry where
  decl := declare .text "Keywords" ["Debug"]
    [bare "r#fn", text "r#match" "r#match", bare "Self_"]
  args := { fallbackName := some (.mk "r#type") }

/-- Nothing but a generated fallback. -/
def emptyText : Entry where
  decl := declare .text "EmptyText" ["Debug"] []

/-- Texts that look like other values. -/
def numeric : Entry where
  decl := declare .text "Numeric" ["Debug"]
    [text "One" "1", text "Zero" "0", text "Null" "null", text "True" "true"]
  args := { fallbackName := some otherName, rawValue := some (.text "") }

/-! ### Enums of integers -/

/-- Numbers from zero on. -/
def category : Entry where
  decl := declare .integer "Category" ["Debug"] [bare "Credit", bare "Debit"]
  args := { rawValue := some (.integer (-3)), fallbackName := some (.mk "General") }

/-- Numbers that are all given. -/
def httpStatus : Entry where
  decl := declare .integer "HttpStatus" ["Debug"]
    [number "Ok" 200, number "NotFound" 404, number "Teapot" (400 + 18)]

/-- A derived decoding that is replaced. -/
def priority : Entry where
  decl := declare .integer "Priority" ["Debug", "Deserialize"] [low, high]
  args := { fallbackName := some otherName }

/-- A fallback below all other numbers. -/
def level : Entry where
  decl := declare .integer "Level" ["Debug"] [low, number "Mid" 5, number "High" 10]
  args := { fallbackName := some otherName, rawValue := some (.integer 0) }

/-- Numbers at both ends of the range. -/
def extremes : Entry where
  decl := declare .integer "Extremes" ["Debug"]
    [number "Min" Int64.minValue, bare "AfterMin", number "Max" Int64.maxValue]
  args := { rawValue := some (.integer 0) }

/-- The least number as the fallback. -/
def minFallback : Entry where
  decl := declare .integer "MinFallback" ["Debug"] [number "Big" 9007199254740993, bare "Bigger"]
  args := { rawValue := some (.integer Int64.minValue) }

/-- A declared fallback that keeps its own number, among given and following numbers. -/
def midFallback : Entry where
  decl := declare .integer "MidFallback" ["Debug"]
    [number "A" 10, bare "Unknown" Configuration.defaultName.isName, bare "B", number "C" (-5),
      bare "D", number "E" 0x1F, number "F" 1099511627776, number "G" (-(2 + 3 * 4)),
      number "H" 97]
  args := { rawValue := some (.integer 77) }

/-- Nothing but a generated fallback. -/
def emptyInteger : Entry where
  decl := declare .integer "EmptyInteger" ["Debug"] []
  args := { rawValue := some (.integer 1000) }

/-! ### Lookup by name -/

/-- All entries. -/
def all : List Entry :=
  [operationType, availability, direction, plan, reused, legacy, both, escapes, keywords,
    emptyText, numeric, category, httpStatus, priority, level, extremes, minFallback,
    midFallback, emptyInteger]

/-- The value of a discriminant. All of the catalog are integer literals. -/
def valuation (expr : List Token) : Int := (integerLiteral? expr).getD 0

namespace Entry

/-- The enum that an entry expands to, in some module. -/
def rawEnum? (modulePath : String) (entry : Entry) : Option RawEnum :=
  RawEnum.ofExpansion? modulePath valuation entry.decl ((Item.enum entry.decl).expand entry.args)

end Entry

/-- The enum with a name, in some module. -/
def find? (modulePath name : String) : Option RawEnum :=
  (all.find? fun entry => entry.decl.name = name).bind (Entry.rawEnum? modulePath)

end Catalog

end FallbackEnum
