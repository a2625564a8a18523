import FallbackEnum.Grammar.Type

/-!
# Patterns

Patterns as they stand in `let`, `match`, closures and parameters.
-/

namespace FallbackEnum

namespace Grammar

variable {α : Type}

/-! ### Alternatives -/

/-- Does a further alternative follow? -/
def atAlternative (ts : Ahead α) : Bool := atOp "|" ts && !atOp "||" ts && !atOp "|=" ts

/-- Read a pattern with alternatives, perhaps with a leading bar. -/
def alternatives (g : Rules α) : Reader α (List Token) :=
  cat [optional atAlternative (op "|"), g.pattern,
    codeWhile atAlternative (cat [op "|", g.pattern])]

/-! ### Ranges -/

/-- Read one of the signs of a range. -/
def rangeSign : Reader α (List Token) := do
  let ts ← get
  if atOp "..=" ts then op "..="
  else if atOp "..." ts then op "..."
  else op ".."

/-- Does the upper end of a range in a pattern stand in front? -/
def atRangeEnd (ts : Ahead α) : Bool :=
  !(ts.isEmpty || atOp "|" ts || atOp "=" ts || (atOp ":" ts && !atOp "::" ts) ||
    atOp "," ts || atOp ";" ts || atWord "if" ts)

/-- Read an end of a range: a literal, a constant block, or a path. -/
def rangeEnd (g : Rules α) : Reader α (List Token) := do
  let ts ← get
  if atOp "-" ts then cat [op "-", literal]
  else if atLiteral ts then literal
  else if atWord "const" ts then cat [word "const", g.block]
  else return (← qualifiedPath g true).2.code

/-- Read the rest of a range pattern, if there is one. -/
def rangeRest (g : Rules α) : Reader α (List Token) :=
  optional (atOp "..") (cat [rangeSign, optional atRangeEnd (rangeEnd g)])

/-! ### Compound patterns -/

/-- Read the pattern of one field of a record. -/
def fieldPattern (g : Rules α) : Reader α (List Token) := do
  let attrs ← attributeCode g
  let ts ← get
  if atOp ".." ts then return attrs ++ (← op "..")
  let boxed ← optWord "box"
  let reference ← optWord "ref"
  let mutable ← optWord "mut"
  let plain := boxed.isEmpty && reference.isEmpty && mutable.isEmpty
  let ts ← get
  let member ←
    match ts with
    | .literal _ text :: rest =>
      match plain, Literal.value text with
      | true, .integer n => do
        set rest
        pure [Token.lit (Text.numeral n)]
      | _, _ => refuse
    | _ => ident
  let ts ← get
  let numbered := match member with
    | [.literal _ _] => true
    | _ => false
  if plain && atOp ":" ts || numbered then
    return attrs ++ member ++ (← cat [op ":", alternatives g])
  else return attrs ++ boxed ++ reference ++ mutable ++ member

/-- Read a pattern that begins with a path. -/
def pathPattern (g : Rules α) : Reader α (List Token) := do
  let (qualified, p) ← qualifiedPath g true
  let ts ← get
  if !qualified && atBang ts && p.plain then
    let (_, call) ← macroCall
    return p.code ++ call
  else if atGroup .brace ts then
    return p.code ++ (← commaGroup .brace (fieldPattern g))
  else if atGroup .paren ts then
    return p.code ++ (← commaGroup .paren (alternatives g))
  else return p.code ++ (← rangeRest g)

/-- Does a pattern begin with a path here? -/
def atPathPattern (ts : Ahead α) : Bool :=
  let follow := ts.drop 1
  atIdent ts && (atOp "::" follow || atOp "!" follow || atGroup .brace follow ||
      atGroup .paren follow || atOp ".." follow) ||
    atWord "self" ts && atOp "::" follow || atOp "::" ts || atOp "<" ts ||
    atAnyOf ["Self", "super", "crate"] ts

/-- Read a pattern without alternatives. -/
def pattern (g : Rules α) : Reader α (List Token) := do
  let ts ← get
  if atPathPattern ts then pathPattern g
  else if atWord "_" ts then word "_"
  else if atWord "box" ts then cat [word "box", g.pattern]
  else if atOp "-" ts || atLiteral ts then cat [rangeEnd g, rangeRest g]
  else if atWord "const" ts then cat [rangeEnd g, rangeRest g]
  else if atAnyOf ["ref", "mut", "self"] ts || atIdent ts then
    cat [optWord "ref", optWord "mut",
      (do if atWord "self" (← get) then anyIdent else ident),
      optional (atOp "@") (cat [op "@", g.pattern])]
  else if atOp "&" ts then cat [op "&", optWord "mut", g.pattern]
  else if atGroup .paren ts then commaGroup .paren (alternatives g)
  else if atGroup .bracket ts then commaGroup .bracket (alternatives g)
  else if atOp ".." ts && !atOp "..." ts then
    let sign ← rangeSign
    return sign ++ (← optional atRangeEnd (rangeEnd g))
  else refuse

end Grammar

end FallbackEnum
