import FallbackEnum.Grammar.Attribute

/-!
# Types

Paths with generic arguments, types, bounds, generic parameters and where clauses. Lifetimes come
first among arguments and parameters, whatever the order they are written in.
-/

namespace FallbackEnum

namespace Grammar

variable {α : Type}

/-! ### Generic arguments and paths -/

/-- Read a constant among generic arguments. -/
def constArgument (g : Rules α) : Reader α (List Token) := do
  let ts ← get
  if atLiteral ts then literal
  else if atIdent ts then ident
  else g.block

/-- A generic argument, and whether it is a lifetime. -/
abbrev GenericArgument := Bool × List Token

/-- Is the code of a type that of one name with optional arguments in angle brackets, which `=`
or `:` may follow among generic arguments? -/
def isBindable : List Token → Bool
  | [.ident _ name] => name != "_"
  | .ident _ _ :: .punct _ '<' _ :: _ => true
  | .ident _ _ :: .punct _ ':' _ :: .punct _ ':' _ :: .punct _ '<' _ :: _ => true
  | _ => false

/-- Read one generic argument. -/
def genericArgument (g : Rules α) : Reader α GenericArgument := do
  let ts ← get
  if atLifetime ts && !atOp "+" (next ts) then return (true, ← lifetime)
  else if atLiteral ts || atGroup .brace ts then return (false, ← constArgument g)
  else
    let argument ← g.type true
    let ts ← get
    if isBindable argument && atOp "=" ts then
      let eq ← op "="
      let ts ← get
      let value ←
        if atLiteral ts || atGroup .brace ts then constArgument g else g.type true
      return (false, argument ++ eq ++ value)
    else if isBindable argument && atOp ":" ts then
      let colon ← op ":"
      let bounds ← separatedCode (fun ts => atOp "," ts || atOp ">" ts) "+" g.bound
      return (false, argument ++ colon ++ bounds)
    else return (false, argument)

/-- Pieces with the lifetimes before the others. Separators stay behind their pieces, and one is
added where it is missing. -/
def lifetimesFirst (pieces : Separated (Bool × List Token)) : List Token :=
  let count := pieces.pieces.length
  let ended := pieces.pieces.mapIdx fun i (isLifetime, code) =>
    (isLifetime, code, decide (i + 1 < count) || pieces.trailing)
  let ordered := ended.filter (·.1) ++ ended.filter (!·.1)
  go ordered
where
  /-- The code of pieces that know whether a separator follows them. -/
  go : List (Bool × List Token × Bool) → List Token
    | [] => []
    | [(_, code, ended)] => code ++ if ended then Token.operator "," else []
    | (_, code, _) :: rest => code ++ Token.operator "," ++ go rest

/-- Read generic arguments in angle brackets, perhaps behind `::`. -/
def genericArguments (g : Rules α) : Reader α AngleArguments := do
  let colons ← optOp "::"
  let _ ← op "<"
  let arguments ← separated (atOp ">") "," (genericArgument g)
  let _ ← op ">"
  return ⟨!colons.isEmpty, lifetimesFirst arguments⟩

/-- Read a segment of a path. In expressions, generic arguments need `::`. -/
def pathSegment (g : Rules α) (inExpr : Bool) : Reader α PathSegment := do
  let named ← pathName
  let ts ← get
  if ["super", "self", "crate", "try"].contains named.name then return named
  else if !inExpr && atOp "<" ts && !atOp "<=" ts || atOp "::" ts && atOp "<" (ts.drop 2) then
    return { named with arguments := some (← genericArguments g) }
  else return named

/-- Does a further segment follow? Parentheses behind `::` are arguments of the last one. -/
def atSegment (ts : Ahead α) : Bool := atOp "::" ts && !atGroup .paren (ts.drop 2)

/-- Read a path with generic arguments. -/
def path (g : Rules α) (inExpr : Bool) : Reader α TraitPath := do
  let leading ← optOp "::"
  let first ← pathSegment g inExpr
  let rest ← repeatWhile atSegment do
    let _ ← op "::"
    pathSegment g inExpr
  return { leadingColons := !leading.isEmpty, first, rest }

/-- The code of a path with what is needed to go on after it. -/
structure PathCode where
  code : List Token
  /-- Has the last segment generic arguments? -/
  lastHasArguments : Bool
  /-- Does the path consist of plain names? -/
  plain : Bool

/-- The code of a path that was read. -/
def PathCode.ofPath (path : TraitPath) : PathCode where
  code := path.code
  lastHasArguments := path.lastSegment.arguments.isSome
  plain := path.isPlain

/-- Read a path that may begin with a type in angle brackets. -/
def qualifiedPath (g : Rules α) (inExpr : Bool) : Reader α (Bool × PathCode) := do
  if atOp "<" (← get) then
    let lt ← op "<"
    let self ← g.type true
    let trait ← optional (atWord "as") do
      return (← word "as") ++ (← path g false).code
    let gt ← op ">"
    let colons ← op "::"
    let rest ← separated (fun _ => false) "::" (pathSegment g inExpr)
    let segments := Separated.mk (rest.pieces.map PathSegment.tokens) rest.trailing
    return (true, {
      code := lt ++ self ++ trait ++ gt ++ colons ++ segments.code "::"
      lastHasArguments := rest.pieces.getLast?.any (·.arguments.isSome)
      plain := false })
  else return (false, .ofPath (← path g inExpr))

/-- Do parenthesised arguments follow, as in `Fn(A) -> B`? -/
def atParenArguments (ts : Ahead α) : Bool :=
  atGroup .paren ts || atOp "::" ts && atGroup .paren (ts.drop 2)

/-- Read a return type, if there is one. -/
def returnType (g : Rules α) (plus : Bool) : Reader α (List Token) :=
  optional (atOp "->") do return (← op "->") ++ (← g.type plus)

/-- Read the parenthesised arguments that may follow a path in a type. -/
def parenArguments (g : Rules α) (p : PathCode) : Reader α (List Token) := do
  if !p.lastHasArguments && atParenArguments (← get) then
    let _ ← optOp "::"
    let inputs ← commaGroup .paren (g.type true)
    return inputs ++ (← returnType g false)
  else return []

/-! ### Bounds -/

/-- Read the lifetimes that a type or bound is generic over, as in `for<'a>`. -/
def boundLifetimes (g : Rules α) : Reader α (List Token) :=
  optional (atWord "for") do
    let keyword ← word "for"
    let lt ← op "<"
    let lifetimes ← separatedCode (atOp ">") "," do
      return (← attributeCode g) ++ (← lifetime)
    let gt ← op ">"
    return keyword ++ lt ++ lifetimes ++ gt

/-- Read a trait as a bound. -/
def traitBound (g : Rules α) : Reader α (List Token) := do
  let lifetimes ← boundLifetimes g
  let modifier ← optOp "?"
  let late ← if lifetimes.isEmpty && !modifier.isEmpty then boundLifetimes g else pure []
  let p := PathCode.ofPath (← path g false)
  return lifetimes ++ modifier ++ late ++ p.code ++ (← parenArguments g p)

/-- Read a bound: a lifetime, a trait, or a trait in parentheses. -/
def bound (g : Rules α) : Reader α (List Token) := do
  let ts ← get
  if atLifetime ts then lifetime
  else if atGroup .paren ts then group .paren (traitBound g)
  else traitBound g

/-- Read a bound of an anonymous type, which may also list what the type captures. -/
def captureBound (g : Rules α) : Reader α (List Token) := do
  if atWord "use" (← get) then
    cat [word "use", op "<",
      separatedCode (atOp ">") "," (do if atLifetime (← get) then lifetime else anyIdent),
      op ">"]
  else g.bound

/-- Does a bound stand in front? -/
def atBound (ts : Ahead α) : Bool :=
  atAnyIdent ts || atOp "::" ts || atOp "?" ts || atLifetime ts || atGroup .paren ts

/-- Is this the code of a trait, and not of a lifetime or a list of captures? -/
def isTrait : List Token → Bool
  | .punct _ '\'' _ :: _ => false
  | .ident _ name :: _ => name != "use"
  | _ => true

/-- Read bounds with `+` between them, as many as there are, or one. There has to be a trait. -/
def bounds (plus : Bool) (p : Reader α (List Token)) : Reader α (List Token) := do
  let pieces ← if plus then separated (fun ts => !atBound ts) "+" p else pure ⟨[← p], false⟩
  if pieces.pieces.any isTrait then return pieces.code "+" else refuse

/-- Read further bounds behind the first. -/
def moreBounds (g : Rules α) : Reader α (List Token) :=
  codeWhile (atOp "+") do
    return (← op "+") ++ (← optional atBound g.bound)

/-! ### Types -/

/-- Read a function type from behind its lifetimes. -/
def functionType (g : Rules α) : Reader α (List Token) :=
  cat [optWord "unsafe",
    optional (atWord "extern") (cat [word "extern", optional atLiteral textLiteral]),
    word "fn",
    commaGroup .paren (do
      let attrs ← attributeCode g
      let ts ← get
      if atOp "..." ts then return attrs ++ (← op "...")
      let named := (atIdent ts || atAnyOf ["_", "self"] ts) && atOp ":" (ts.drop 1) &&
        !atOp "::" (ts.drop 1)
      let name ← if named then cat [anyIdent, op ":"] else pure []
      if !name.isEmpty && atOp "..." (← get) then return attrs ++ name ++ (← op "...")
      return attrs ++ name ++ (← g.type true)),
    returnType g false]

/-- Read a type in parentheses or a tuple. -/
def parenType (g : Rules α) (plus : Bool) : Reader α (List Token) := do
  let inner ← group .paren do
    let ts ← get
    if ts.isEmpty then return []
    else if atLifetime ts then bounds true g.bound
    else if atOp "?" ts then g.bound
    else separatedCode List.isEmpty "," (g.type true)
  if plus && atOp "+" (← get) then return inner ++ (← moreBounds g) else return inner

/-- Read a type that begins with a path. -/
def pathType (g : Rules α) (plus quantified : Bool) : Reader α (List Token) := do
  let (qualified, p) ← qualifiedPath g false
  let arguments ← parenArguments g p
  let ts ← get
  if qualified then return p.code ++ arguments
  else if atBang ts && p.plain && arguments.isEmpty then
    let (_, call) ← macroCall
    return p.code ++ call
  else if plus && (quantified || atOp "+" ts) then
    return p.code ++ arguments ++ (← moreBounds g)
  else return p.code ++ arguments

/-- Read a type. -/
def type (g : Rules α) (plus : Bool) : Reader α (List Token) := do
  let lifetimes ← boundLifetimes g
  let ts ← get
  if atAnyOf ["fn", "unsafe", "extern"] ts then return lifetimes ++ (← functionType g)
  else if !lifetimes.isEmpty then
    if atPathName ts then return lifetimes ++ (← pathType g plus true) else refuse
  else if atGroup .paren ts then parenType g plus
  else if atPathName ts || atOp "::" ts || atOp "<" ts then pathType g plus false
  else if atWord "dyn" ts then cat [word "dyn", bounds plus g.bound]
  else if atGroup .bracket ts then
    group .bracket (cat [g.type true, optional (atOp ";") (cat [op ";", g.exprCode true])])
  else if atOp "*" ts then
    cat [op "*", (do if atWord "mut" (← get) then word "mut" else word "const"), g.type false]
  else if atOp "&" ts then
    cat [op "&", optional atLifetime lifetime, optWord "mut", g.type false]
  else if atOp "!" ts && !atOp "!=" ts then op "!"
  else if atWord "impl" ts then cat [word "impl", bounds plus (captureBound g)]
  else if atWord "_" ts then word "_"
  else if atLifetime ts then bounds plus g.bound
  else refuse

/-! ### Generic parameters -/

/-- Read bounds behind a colon; a colon without bounds disappears. -/
def colonBounds (stop : Ahead α → Bool) (p : Reader α (List Token)) : Reader α (List Token) := do
  if atOp ":" (← get) then
    let colon ← op ":"
    let bounds ← separatedCode stop "+" p
    return if bounds.isEmpty then [] else colon ++ bounds
  else return []

/-- Read one generic parameter; the flag tells a lifetime. -/
def genericParameter (g : Rules α) : Reader α (Bool × List Token) := do
  let attrs ← attributeCode g
  let ts ← get
  if atLifetime ts then
    let name ← lifetime
    return (true, attrs ++ name ++
      (← colonBounds (fun ts => atOp "," ts || atOp ">" ts) lifetime))
  else if atWord "const" ts then
    let code ← cat [word "const", ident, op ":", g.type true,
      optional (atOp "=") (cat [op "=", constArgument g])]
    return (false, attrs ++ code)
  else
    let name ← if atWord "_" ts then anyIdent else ident
    let bounds ← colonBounds (fun ts => atOp "," ts || atOp ">" ts || atOp "=" ts) g.bound
    let default ← optional (atOp "=") (cat [op "=", g.type true])
    return (false, attrs ++ name ++ bounds ++ default)

/-- Read generic parameters, if there are some. -/
def generics (g : Rules α) : Reader α (List Token) := do
  if !atOp "<" (← get) then return []
  let lt ← op "<"
  let parameters ← separated (atOp ">") "," (genericParameter g)
  let gt ← op ">"
  return if parameters.pieces.isEmpty then [] else lt ++ lifetimesFirst parameters ++ gt

/-- Does a where clause end here? -/
def atWhereEnd (ts : Ahead α) : Bool :=
  ts.isEmpty || atGroup .brace ts || atOp "," ts || atOp ";" ts ||
    (atOp ":" ts && !atOp "::" ts) || atOp "=" ts

/-- Read one condition of a where clause. -/
def wherePredicate (g : Rules α) : Reader α (List Token) := do
  let ts ← get
  if atLifetime ts && atOp ":" (next ts) then
    cat [lifetime, op ":", separatedCode atWhereEnd "+" lifetime]
  else
    cat [boundLifetimes g, g.type true, op ":", separatedCode atWhereEnd "+" g.bound]

/-- Read a where clause, if there is one; one without conditions disappears. -/
def whereClause (g : Rules α) : Reader α (List Token) := do
  if !atWord "where" (← get) then return []
  let keyword ← word "where"
  let predicates ← separatedCode atWhereEnd "," (wherePredicate g)
  return if predicates.isEmpty then [] else keyword ++ predicates

/-! ### Fields -/

/-- Read one field of a tuple. -/
def tupleField (g : Rules α) : Reader α (List Token) := do
  let attrs ← attributeCode g
  let vis ← visibility
  return attrs ++ vis.tokens ++ (← g.type true)

/-- Read one field of a record. -/
def recordField (g : Rules α) : Reader α (List Token) := do
  let attrs ← attributeCode g
  let vis ← visibility
  let name ← if atWord "_" (← get) then anyIdent else ident
  return attrs ++ vis.tokens ++ name ++ (← cat [op ":", g.type true])

/-- Read the fields of a tuple. -/
def tupleFields (g : Rules α) : Reader α (List Token) :=
  within .paren (separatedCode List.isEmpty "," (tupleField g))

/-- Read the fields of a record. -/
def recordFields (g : Rules α) : Reader α (List Token) :=
  within .brace (separatedCode List.isEmpty "," (recordField g))

end Grammar

end FallbackEnum
