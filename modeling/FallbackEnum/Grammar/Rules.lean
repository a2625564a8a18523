import FallbackEnum.Grammar.Reader

/-!
# The rules of the grammar

Types, patterns, expressions, blocks and items contain each other. Each rule is written over the
rules that it may come back to, which it takes as an argument. The grammar of nesting depth
`n + 1` is made of these rules over the grammar of depth `n`, so that no rule refers to itself.
-/

namespace FallbackEnum

namespace Grammar

/-- What the surroundings of an expression need to know about it. -/
inductive Shape where
  /-- A range, which is no operand. -/
  | range
  /-- A comparison, which cannot be compared again. -/
  | comparison
  /-- An expression that ends with its block and needs no semicolon. -/
  | block
  /-- A macro call with braces, which needs no semicolon either. -/
  | bracedMacro
  /-- Any other expression. -/
  | plain
deriving DecidableEq, Repr

/-- An expression that was recognised. -/
structure Expr where
  code : List Token
  shape : Shape

/-- How strongly operators bind. -/
abbrev Precedence := Nat

/-- The rules that other rules come back to. -/
structure Rules (α : Type) where
  /-- A type; a list of bounds with `+` is one where that is allowed. -/
  type : (plus : Bool) → Reader α (List Token)
  /-- A path with generic arguments, as it stands in types. -/
  path : Reader α TraitPath
  /-- A bound of a type parameter. -/
  bound : Reader α (List Token)
  /-- A pattern without alternatives. -/
  pattern : Reader α (List Token)
  /-- An expression; a record literal is one where that is allowed. -/
  expr : (record : Bool) → Reader α Expr
  /-- An operand with its unary operators. -/
  operand : (record : Bool) → Reader α Expr
  /-- The operators, at least as strong as given, that follow an operand. -/
  operators : (record : Bool) → Precedence → Expr → Reader α Expr
  /-- A block of statements in braces. -/
  block : Reader α (List Token)
  /-- An item with its attributes. -/
  item : Reader α (List Token)

namespace Rules

variable {α : Type}

/-- The grammar of depth zero accepts nothing. -/
def empty : Rules α where
  type _ := refuse
  path := refuse
  bound := refuse
  pattern := refuse
  expr _ := refuse
  operand _ := refuse
  operators _ _ _ := refuse
  block := refuse
  item := refuse

/-- The code of an expression. -/
def exprCode (g : Rules α) (record : Bool) : Reader α (List Token) := do
  return (← g.expr record).code

end Rules

end Grammar

end FallbackEnum
