import FallbackEnum.Declaration.Basic

/-!
# Numbering

The variants of an enum are numbered in order. A variant with a discriminant has its value; any
other one follows its predecessor, and the first has zero. Which value an expression has is up to
a valuation; that of an integer literal, negated or not, is fixed.
-/

namespace FallbackEnum

/-- The value of an integer literal, negated or not. -/
def integerLiteral? : List Token → Option Int
  | [.literal _ spelling] => magnitude? spelling
  | [.punct _ '-' _, .literal _ spelling] => (magnitude? spelling).map (- ·)
  | _ => none
where
  /-- The value of an integer literal without sign. -/
  magnitude? (spelling : String) : Option Int :=
    match Literal.value spelling with
    | .integer m => some m
    | _ => none

namespace Variant

/-- The number of a variant, if `next` is due to one without discriminant. -/
def number (valuation : List Token → Int) (next : Int) (v : Variant) : Int :=
  match v.discriminant with
  | some expr => valuation expr
  | none => next

/-- Number variants in order, from `next` on. -/
def numberFrom (valuation : List Token → Int) : Int → List Variant → List (String × Int)
  | _, [] => []
  | next, v :: rest =>
    (v.name, v.number valuation next) :: numberFrom valuation (v.number valuation next + 1) rest

end Variant

namespace EnumDecl

/-- The numbers of all variants. -/
def numbering (valuation : List Token → Int) (decl : EnumDecl) : List (String × Int) :=
  Variant.numberFrom valuation 0 decl.variants

end EnumDecl

end FallbackEnum
