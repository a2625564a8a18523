import FallbackEnum.Grammar.Expression

/-!
# Items

Enums are read into declarations; items of all other kinds are recognised and kept as code.
-/

namespace FallbackEnum

namespace Grammar

variable {α : Type}

/-! ### Enums -/

/-- The place from the beginning of one input to the beginning of a later one. -/
def spanBetween [Placed α] (start stop : Ahead α) : Span :=
  let consumed := start.take (start.length - stop.length)
  match consumed.head?, consumed.getLast? with
  | some first, some last => (Placed.place first.mark).through (Placed.place last.mark)
  | _, _ => Span.nowhere

/-- Read the fields of a variant. -/
def fields (g : Rules α) : Reader α Fields := do
  let ts ← get
  if atGroup .brace ts then return .record (← recordFields g)
  else if atGroup .paren ts then return .tuple (← tupleFields g)
  else return .unit

/-- Read a variant. A visibility before its name is passed over. -/
def variant [Placed α] (g : Rules α) : Reader α Variant := do
  let start ← get
  let attrs ← attributes g
  let _ ← visibility
  let named ← get
  let ident ← declaredName
  let fields ← fields g
  let discriminant ←
    if atOp "=" (← get) then do
      let _ ← op "="
      pure (some (← g.exprCode true))
    else pure none
  let stop ← get
  return {
    attrs, ident, fields, discriminant
    span := if attrs.isEmpty then spanBetween named stop else spanBetween start stop }

/-- Read an enum from its attributes on. -/
def enumDecl [Placed α] (g : Rules α) : Reader α EnumDecl := do
  let start ← get
  let attrs ← attributes g
  let visibility ← visibility
  let _ ← word "enum"
  let ident ← declaredName
  let generics ← generics g
  let whereClause ← whereClause g
  let variants ← within .brace (separated List.isEmpty "," (variant g))
  let stop ← get
  return {
    attrs, visibility, ident, generics, whereClause
    variants := variants.pieces
    trailingComma := variants.trailing
    span := spanBetween start stop }

/-! ### Functions -/

/-- Read the name of a calling convention, if one is given. -/
def abi : Reader α (List Token) :=
  optional (atWord "extern") (cat [word "extern", optional atLiteral textLiteral])

/-- Is this the parameter `self` of a method? -/
def atReceiver (ts : Ahead α) : Bool :=
  let base := if atWord "mut" ts then ts.drop 1 else ts
  let referenced :=
    if atOp "&" ts then
      let inner := ts.drop 1
      let inner := if atLifetime inner then next inner else inner
      let inner := if atWord "mut" inner then inner.drop 1 else inner
      atWord "self" inner && !atOp "::" (inner.drop 1)
    else false
  (atWord "self" base && !atOp "::" (base.drop 1)) || referenced

/-- Read one parameter of a function. -/
def parameter (g : Rules α) : Reader α (List Token) := do
  let attrs ← attributeCode g
  let ts ← get
  if atOp "..." ts then return attrs ++ (← op "...")
  else if atReceiver ts then
    return attrs ++ (← cat [
      optional (atOp "&") (cat [op "&", optional atLifetime lifetime]),
      optWord "mut", word "self", optional (atOp ":") (cat [op ":", g.type true])])
  else
    return attrs ++ (← cat [g.pattern, op ":",
      (do if atOp "..." (← get) then op "..." else g.type true)])

/-- Read the head of a function, up to its body. -/
def signature (g : Rules α) : Reader α (List Token) :=
  cat [optWord "const", optWord "async", optWord "unsafe", abi, word "fn", ident, generics g,
    commaGroup .paren (parameter g), returnType g true, whereClause g]

/-- Does the head of a function stand in front? -/
def atSignature (ts : Ahead α) : Bool :=
  let skipWord (text : String) (ts : Ahead α) := if atWord text ts then ts.drop 1 else ts
  let ts := skipWord "unsafe" (skipWord "async" (skipWord "const" ts))
  let ts :=
    if atWord "extern" ts then
      let ts := ts.drop 1
      match (textLiteral : Reader α (List Token)) ts with
      | some (_, rest) => rest
      | none => ts
    else ts
  atWord "fn" ts

/-- Read a function with its body or, where there is none, a semicolon. -/
def function (g : Rules α) : Reader α (List Token) := do
  let head ← signature g
  if atOp ";" (← get) then return head ++ (← op ";") else return head ++ (← g.block)

/-! ### Constants, types, modules -/

/-- Read a constant, perhaps without a value. -/
def constant (g : Rules α) : Reader α (List Token) :=
  cat [word "const", (do if atWord "_" (← get) then anyIdent else ident), generics g, op ":",
    g.type true, optional (atOp "=") (cat [op "=", g.exprCode true]), whereClause g, op ";"]

/-- Read a static, perhaps without a type or without a value. -/
def static (g : Rules α) : Reader α (List Token) :=
  cat [word "static", optWord "mut", ident,
    optional (atOp ":") (cat [op ":", g.type true]),
    optional (atOp "=") (cat [op "=", g.exprCode true]), op ";"]

/-- Read a type alias, perhaps with bounds or without a value. -/
def typeAlias (g : Rules α) : Reader α (List Token) :=
  cat [word "type", ident, generics g,
    optional (atOp ":") (cat [op ":", separatedCode atWhereEnd "+" g.bound]),
    whereClause g, optional (atOp "=") (cat [op "=", g.type true]), whereClause g, op ";"]

/-- Read a tree of imports, at most `bound` levels deep. -/
def useTree : Nat → Reader α (List Token)
  | 0 => refuse
  | bound + 1 => do
    let ts ← get
    if atGroup .brace ts then commaGroup .brace (useTree bound)
    else if atOp "*" ts then op "*"
    else
      let name ←
        if atAnyOf ["super", "self", "Self", "crate", "try"] ts then anyIdent else ident
      let ts ← get
      if atOp "::" ts then
        let colons ← op "::"
        return name ++ colons ++ (← (do
          if atOp "::" (← get) then cat [op "::", useTree bound] else useTree bound))
      else if atWord "as" ts then
        return name ++ (← cat [word "as",
          (do if atWord "_" (← get) then anyIdent else ident)])
      else return name

/-- Read an import. -/
def useItem : Reader α (List Token) := do
  let depth := (← get).length + TokenTree.weightAll (← get)
  cat [word "use", optOp "::", useTree depth, op ";"]

/-- Read a macro call or definition as an item. -/
def macroItem : Reader α (List Token) := do
  let path ← modPath
  let bang ← op "!"
  let name ← optional (fun ts => atIdent ts || atWord "try" ts) anyIdent
  let (delimiter, arguments) ← anyGroup
  let semicolon ← if delimiter = .brace then pure [] else op ";"
  return path.tokens ++ bang ++ name ++ [Token.delimited delimiter arguments] ++ semicolon

/-- Read items to the end of the input. -/
def items (g : Rules α) : Reader α (List Token) := codeWhile (!·.isEmpty) g.item

/-- Read a module with its content or, where there is none, a semicolon. -/
def module (g : Rules α) : Reader α (List Token) :=
  cat [optWord "unsafe", word "mod", (do if atWord "try" (← get) then anyIdent else ident),
    (do
      if atOp ";" (← get) then op ";"
      else group .brace (cat [innerAttributeCode g, items g]))]

/-! ### Structs and unions -/

/-- Read a struct. -/
def struct (g : Rules α) : Reader α (List Token) := do
  let head ← cat [word "struct", ident, generics g]
  let ts ← get
  if atGroup .paren ts then
    let fields ← tupleFields g
    return head ++ Token.parens fields ++ (← cat [whereClause g, op ";"])
  else
    let condition ← whereClause g
    if atGroup .brace (← get) then
      return head ++ condition ++ Token.braces (← recordFields g)
    else return head ++ condition ++ (← op ";")

/-- Read a union. -/
def union (g : Rules α) : Reader α (List Token) := do
  let head ← cat [word "union", ident, generics g, whereClause g]
  return head ++ Token.braces (← recordFields g)

/-! ### Traits and implementations -/

/-- Read one member of a trait, implementation or foreign block, behind its attributes and
visibility. -/
def associatedItem (g : Rules α) : Reader α (List Token) := do
  let attrs ← attributeCode g
  let vis ← visibility
  let modifier ← optional (fun ts => atAnyOf ["default", "safe"] ts && !atOp "!" (ts.drop 1))
    anyIdent
  let ts ← get
  let body ←
    if atSignature ts then function g
    else if atWord "const" ts then constant g
    else if atWord "static" ts then static g
    else if atWord "type" ts then typeAlias g
    else macroItem
  return attrs ++ vis.tokens ++ modifier ++ body

/-- Read the members of a trait, implementation or foreign block. -/
def associatedItems (g : Rules α) : Reader α (List Token) :=
  group .brace (cat [innerAttributeCode g, codeWhile (!·.isEmpty) (associatedItem g)])

/-- Read a trait, or a trait alias. -/
def trait (g : Rules α) : Reader α (List Token) := do
  let head ← cat [optWord "unsafe", optWord "auto", word "trait", ident, generics g]
  if atOp "=" (← get) then
    return head ++ (← cat [op "=", separatedCode atWhereEnd "+" g.bound, whereClause g, op ";"])
  else
    return head ++ (← cat [
      colonBounds (fun ts => atWord "where" ts || atGroup .brace ts) g.bound,
      whereClause g, associatedItems g])

/-- Do generic parameters of an implementation stand in front, and not a qualified type? -/
def atImplGenerics (ts : Ahead α) : Bool :=
  let follow := ts.drop 1
  atOp "<" ts &&
    (atOp ">" follow || atOp "#" follow ||
      ((atIdent follow || atLifetime follow) &&
        (let after := next follow
         (atOp ":" after && !atOp "::" after) || atOp "," after || atOp ">" after ||
          atOp "=" after)) ||
      atWord "const" follow)

/-- Read an implementation. -/
def implementation (g : Rules α) : Reader α (List Token) :=
  cat [optWord "default", optWord "unsafe", word "impl", optional atImplGenerics (generics g),
    optWord "const", optional (fun ts => atOp "!" ts && !atGroup .brace (ts.drop 1)) (op "!"),
    g.type true, optional (atWord "for") (cat [word "for", g.type true]), whereClause g,
    associatedItems g]

/-! ### All items -/

/-- Read an item that is no enum, behind its attributes. -/
def otherItem (g : Rules α) : Reader α (List Token) := do
  let vis ← visibility
  let ts ← get
  let follow := ts.drop 1
  let body ←
    if atSignature ts then function g
    else if atWord "extern" ts then
      if atWord "crate" follow then
        cat [word "extern", word "crate",
          (do if atWord "self" (← get) then anyIdent else ident),
          optional (atWord "as") (cat [word "as",
            (do if atWord "_" (← get) then anyIdent else ident)]),
          op ";"]
      else cat [abi, associatedItems g]
    else if atWord "use" ts then useItem
    else if atWord "static" ts then static g
    else if atWord "const" ts then constant g
    else if atWord "unsafe" ts then
      if atWord "trait" follow || (atWord "auto" follow && atWord "trait" (follow.drop 1)) then
        trait g
      else if atWord "impl" follow then implementation g
      else if atWord "extern" follow then cat [word "unsafe", abi, associatedItems g]
      else module g
    else if atWord "mod" ts then module g
    else if atWord "type" ts then typeAlias g
    else if atWord "struct" ts then struct g
    else if atWord "union" ts && atIdent follow then union g
    else if atWord "trait" ts || (atWord "auto" ts && atWord "trait" follow) then trait g
    else if atWord "impl" ts || (atWord "default" ts && !atOp "!" follow) then implementation g
    else if atWord "macro" ts then
      cat [word "macro", ident,
        (do
          let (delimiter, arguments) ← anyGroup
          let first := [Token.delimited delimiter arguments]
          if delimiter = .paren then
            let (delimiter, arguments) ← anyGroup
            return first ++ [Token.delimited delimiter arguments]
          else return first)]
    else
      match vis with
      | .inherited => macroItem
      | _ => refuse
  return vis.tokens ++ body

/-- Does an enum stand in front, from behind its attributes? -/
def atEnum (ts : Ahead α) : Bool :=
  match (visibility : Reader α Visibility) ts with
  | some (_, rest) => atWord "enum" rest
  | none => false

/-- Read an item. -/
def item [Placed α] (g : Rules α) : Reader α Item := do
  let start ← get
  let attrs ← attributeCode g
  if atEnum (← get) then
    set start
    return .enum (← enumDecl g)
  else
    let code ← otherItem g
    return .other (attrs ++ code) (spanBetween start (← get))

/-- The code of an item. -/
def itemCode [Placed α] (g : Rules α) : Reader α (List Token) := do
  return (← item g).tokens

/-! ### The grammar -/

namespace Rules

/-- The rules over the rules that they come back to. -/
def step [Placed α] (g : Rules α) : Rules α where
  type := Grammar.type g
  path := Grammar.path g false
  bound := Grammar.bound g
  pattern := Grammar.pattern g
  expr := Grammar.expr g
  operand := Grammar.operand g
  operators := Grammar.operators g
  block := Grammar.block g
  item := Grammar.itemCode g

/-- The grammar up to a nesting depth. -/
def upTo [Placed α] : Nat → Rules α
  | 0 => empty
  | depth + 1 => step (upTo depth)

end Rules

/-- Read all of an input with a rule. The grammar is deep enough for the input: rules come back
to each other a few times before they take a tree. -/
def readAll [Placed α] {β : Type} (rule : Rules α → Reader α β) (ts : List (TokenTree α)) :
    Option β :=
  match rule (Rules.upTo (4 * TokenTree.weightAll ts + 8)) ts with
  | some (value, []) => some value
  | _ => none

end Grammar

/-! ### Reading sources -/

namespace Item

/-- Read one item. -/
def parse? (ts : List (TokenTree Span)) : Option Item := Grammar.readAll Grammar.item ts

end Item

namespace Variant

/-- Read one variant. -/
def parse? (ts : List (TokenTree Span)) : Option Variant := Grammar.readAll Grammar.variant ts

end Variant

namespace Attribute

/-- Read outer attributes. -/
def parseAll? (ts : List (TokenTree Span)) : Option (List Attribute) :=
  Grammar.readAll Grammar.attributes ts

end Attribute

end FallbackEnum
