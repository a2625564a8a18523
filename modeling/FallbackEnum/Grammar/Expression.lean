import FallbackEnum.Grammar.Pattern

/-!
# Expressions

Operands, operators with their precedence, control flow, and blocks of statements.
-/

namespace FallbackEnum

namespace Grammar

variable {α : Type}

/-! ### Precedence -/

namespace Precedence

/-- Any operator at all. -/
def lowest : Precedence := 0

/-- Assignments, plain and compound. -/
def assign : Precedence := 1

/-- Ranges. -/
def range : Precedence := 2

/-- Comparisons. -/
def compare : Precedence := 6

/-- Casts. -/
def cast : Precedence := 13

end Precedence

/-- The binary operators, a longer one before those it begins with. -/
def binaryOperators : List (String × Precedence) :=
  [("+=", 1), ("-=", 1), ("*=", 1), ("/=", 1), ("%=", 1), ("^=", 1), ("&=", 1), ("|=", 1),
    ("<<=", 1), (">>=", 1), ("&&", 4), ("||", 3), ("<<", 10), (">>", 10), ("==", 6), ("<=", 6),
    ("!=", 6), (">=", 6), ("+", 11), ("-", 11), ("*", 12), ("/", 12), ("%", 12), ("^", 8),
    ("&", 9), ("|", 7), ("<", 6), (">", 6)]

/-- The binary operator in front. -/
def binaryOperator? (ts : Ahead α) : Option (String × Precedence) :=
  binaryOperators.find? fun (text, _) => atOp text ts

/-- Does a plain assignment follow? -/
def atAssign (ts : Ahead α) : Bool := atOp "=" ts && !atOp "=>" ts

/-- How strongly the operator in front binds. -/
def precedenceAhead (ts : Ahead α) : Precedence :=
  match binaryOperator? ts with
  | some (_, precedence) => precedence
  | none =>
    if atAssign ts then Precedence.assign
    else if atOp ".." ts then Precedence.range
    else if atWord "as" ts then Precedence.cast
    else Precedence.lowest

/-! ### What may begin an expression -/

/-- Can an expression begin here? -/
def atExpr (ts : Ahead α) : Bool :=
  atAnyIdent ts || atGroup .paren ts || atGroup .bracket ts || atGroup .brace ts ||
    atLiteral ts || (atOp "!" ts && !atOp "!=" ts) ||
    (atOp "-" ts && !atOp "-=" ts && !atOp "->" ts) || (atOp "*" ts && !atOp "*=" ts) ||
    (atOp "|" ts && !atOp "|=" ts) || (atOp "&" ts && !atOp "&=" ts) || atOp ".." ts ||
    (atOp "<" ts && !atOp "<=" ts && !atOp "<<=" ts) || atOp "::" ts || atLifetime ts ||
    atOp "#" ts

/-- A range has no upper end before these. -/
def atRangeStop (record : Bool) (ts : Ahead α) : Bool :=
  ts.isEmpty || atOp "," ts || atOp ";" ts || (atOp "." ts && !atOp ".." ts) || atOp "?" ts ||
    atOp "=>" ts || (!record && atGroup .brace ts) || atOp "=" ts || atOp "+" ts ||
    atOp "/" ts || atOp "%" ts || atOp "^" ts || atOp ">" ts || atOp "<=" ts || atOp "!=" ts ||
    atOp "-=" ts || atOp "*=" ts || atOp "&=" ts || atOp "|=" ts || atOp "<<=" ts ||
    atWord "as" ts

/-! ### Operators -/

/-- Read the right operand of a binary operator, with all that binds more strongly. -/
def rightOperandUpTo (g : Rules α) (record : Bool) (precedence : Precedence) :
    Nat → Expr → Reader α Expr
  | 0, e => return e
  | bound + 1, e => do
    let ts ← get
    let following := precedenceAhead ts
    if precedence < following ||
        (following = precedence && precedence = Precedence.assign) then
      let longer ← g.operators record following e
      if (← get).length < ts.length then rightOperandUpTo g record precedence bound longer
      else return longer
    else return e

/-- Read the right operand of a binary operator. -/
def rightOperand (g : Rules α) (record : Bool) (precedence : Precedence) :
    Reader α (List Token) := do
  let first ← g.operand record
  return (← rightOperandUpTo g record precedence (← get).length first).code

/-- Read a range from its sign on. -/
def rangeFrom (g : Rules α) (record : Bool) : Reader α (List Token) := do
  let ts ← get
  if atOp "..=" ts then
    return (← op "..=") ++ (← rightOperand g record Precedence.range)
  else if atOp "..." ts then refuse
  else
    let sign ← op ".."
    if atRangeStop record (← get) then return sign
    else return sign ++ (← rightOperand g record Precedence.range)

/-- Does the input go on in a way that a cast does not allow? -/
def afterCast (ts : Ahead α) : Bool :=
  (atOp "." ts && !atOp ".." ts) || atOp "?" ts || atGroup .bracket ts || atGroup .paren ts

/-- Read one operator, at least as strong as `base`, behind an expression. -/
def oneOperator? (g : Rules α) (record : Bool) (base : Precedence) (e : Expr) :
    Reader α (Option Expr) := do
  let ts ← get
  if e.shape = .range then return none
  match binaryOperator? ts with
  | some (text, precedence) =>
    if precedence < base then return none
    else if precedence = Precedence.compare && e.shape = .comparison then refuse
    else
      let sign ← op text
      let right ← rightOperand g record precedence
      return some ⟨e.code ++ sign ++ right,
        if precedence = Precedence.compare then .comparison else .plain⟩
  | none =>
    if base ≤ Precedence.assign && atAssign ts then
      let sign ← op "="
      return some ⟨e.code ++ sign ++ (← rightOperand g record Precedence.assign), .plain⟩
    else if base ≤ Precedence.range && atOp ".." ts then
      return some ⟨e.code ++ (← rangeFrom g record), .range⟩
    else if base ≤ Precedence.cast && atWord "as" ts then
      let keyword ← word "as"
      let target ← g.type false
      if afterCast (← get) then refuse
      else return some ⟨e.code ++ keyword ++ target, .plain⟩
    else return none

/-- Read operators behind an expression, at most `bound` of them. -/
def operatorsUpTo (g : Rules α) (record : Bool) (base : Precedence) : Nat → Expr → Reader α Expr
  | 0, e => return e
  | bound + 1, e => do
    match ← oneOperator? g record base e with
    | some longer => operatorsUpTo g record base bound longer
    | none => return e

/-- Read the operators, at least as strong as `base`, behind an expression. -/
def operators (g : Rules α) (record : Bool) (base : Precedence) (e : Expr) : Reader α Expr := do
  operatorsUpTo g record base ((← get).length + 1) e

/-! ### Calls, members, indices -/

/-- The numeral of a member of a tuple: a small integer without suffix. -/
def memberNumeral? (text : String) : Option (List Token) :=
  match Literal.value text with
  | .integer n =>
    let unsuffixed := text.toList.all fun c => c.isDigit || c = '_' ||
      ((text.startsWith "0x" || text.startsWith "0o" || text.startsWith "0b") && c.isAlphanum)
    if unsuffixed && n < UInt32.size then some [.lit (Text.numeral n)] else none
  | _ => none

/-- The members that the spelling of a fraction stands for behind a dot, as in `x.0.1`: their
code, and whether a dot was left over. -/
def splitMembers? (text : String) : Option (List Token × Bool) :=
  let parts := text.splitOn "."
  let trailing := parts.getLast? = some ""
  let numerals := if trailing then parts.dropLast else parts
  match numerals.mapM memberNumeral? with
  | some codes =>
    let joined := (Separated.mk codes trailing).code "."
    some (joined, trailing)
  | none => none

/-- Read a member, a method call or `await` from behind the dot. -/
def memberAccess (g : Rules α) : Reader α (List Token) := do
  let ts ← get
  if atWord "await" ts then word "await"
  else match ts with
    | .literal _ text :: rest =>
      match memberNumeral? text with
      | some code => do
        set rest
        return code
      | none => refuse
    | _ =>
      let member ← ident
      let turbofish ← optional (atOp "::") (do return (← genericArguments g).tokens)
      if !turbofish.isEmpty || atGroup .paren (← get) then
        return member ++ turbofish ++ (← commaGroup .paren (g.exprCode true))
      else return member

/-- Read what follows a dot. The numerals of `x.0.1` are written like one fraction. -/
def afterDot (g : Rules α) : Reader α (List Token) := do
  let ts ← get
  match ts with
  | .literal _ text :: rest =>
    match Literal.value text with
    | .fraction =>
      match splitMembers? text with
      | some (code, false) => do
        set rest
        return code
      | some (code, true) => do
        set rest
        return code ++ (← memberAccess g)
      | none => refuse
    | _ => memberAccess g
  | _ => memberAccess g

/-- Does something follow that belongs to an operand? -/
def atTrailer (ts : Ahead α) : Bool :=
  atGroup .paren ts || (atOp "." ts && !atOp ".." ts) || atGroup .bracket ts || atOp "?" ts

/-- Read one call, index, member or `?`. -/
def trailer (g : Rules α) : Reader α (List Token) := do
  let ts ← get
  if atGroup .paren ts then commaGroup .paren (g.exprCode true)
  else if atGroup .bracket ts then group .bracket (g.exprCode true)
  else if atOp "?" ts then op "?"
  else cat [op ".", afterDot g]

/-- Read all that belongs to an operand. -/
def trailers (g : Rules α) (e : Expr) : Reader α Expr := do
  let ahead (ts : Ahead α) : Bool :=
    atTrailer ts && (e.shape != .range || atGroup .paren ts || atGroup .bracket ts)
  let code ← codeWhile ahead (trailer g)
  return if code.isEmpty then e else ⟨e.code ++ code, .plain⟩

/-! ### Blocks and control flow -/

/-- Read a block that may begin with inner attributes. -/
def blockWith (g : Rules α) (before : List (Reader α (List Token))) : Reader α Expr := do
  return ⟨← cat (before ++ [g.block]), .block⟩

/-- Read one field of a record literal. -/
def fieldValue (g : Rules α) : Reader α (List Token) := do
  let attrs ← attributeCode g
  let ts ← get
  match ts with
  | .literal _ text :: rest =>
    match memberNumeral? text with
    | some member => do
      set rest
      return attrs ++ member ++ (← cat [op ":", g.exprCode true])
    | none => refuse
  | _ =>
    let member ← ident
    return attrs ++ member ++
      (← optional (fun ts => atOp ":" ts && !atOp "::" ts) (cat [op ":", g.exprCode true]))

/-- Read a record literal from behind its path. A base may stand at the end. -/
def recordLiteral (g : Rules α) : Reader α (List Token) :=
  group .brace do
    let fields ← separatedCode (fun ts => ts.isEmpty || atOp ".." ts) "," (fieldValue g)
    let base ← optional (atOp "..") (cat [op "..", optional (!·.isEmpty) (g.exprCode true)])
    return fields ++ base

/-- Read a path, a macro call or a record literal. -/
def pathExpr (g : Rules α) (record : Bool) : Reader α Expr := do
  let (qualified, p) ← qualifiedPath g true
  let ts ← get
  if !qualified && atBang ts && p.plain then
    let (delimiter, call) ← macroCall
    return ⟨p.code ++ call, if delimiter = .brace then .bracedMacro else .plain⟩
  else if record && atGroup .brace ts then
    return ⟨p.code ++ (← recordLiteral g), .plain⟩
  else return ⟨p.code, .plain⟩

/-- Read a closure. -/
def closure (g : Rules α) (record : Bool) : Reader α Expr := do
  let head ← cat [boundLifetimes g, optWord "const", optWord "static", optWord "async",
    optWord "move", op "|",
    separatedCode (atOp "|") "," (cat [attributeCode g, g.pattern,
      optional (atOp ":") (cat [op ":", g.type true])]),
    op "|"]
  if atOp "->" (← get) then
    return ⟨head ++ (← cat [op "->", g.type true, g.block]), .plain⟩
  else return ⟨head ++ (← g.exprCode record), .plain⟩

/-- Does a closure begin here? -/
def atClosure (ts : Ahead α) : Bool :=
  let follow := ts.drop 1
  atOp "|" ts || atAnyOf ["move", "static"] ts ||
    (atWord "for" ts && atOp "<" follow &&
      (atLifetime (follow.drop 1) || atOp ">" (follow.drop 1))) ||
    (atWord "const" ts && !atGroup .brace follow) ||
    (atWord "async" ts && (atOp "|" follow || atWord "move" follow))

/-- Read a conditional, with the `else` branches that belong to it, at most `bound` of them. -/
def conditionalUpTo (g : Rules α) : Nat → Reader α (List Token)
  | 0 => refuse
  | bound + 1 => do
    let head ← cat [word "if", g.exprCode false, g.block]
    if atWord "else" (← get) then
      let keyword ← word "else"
      let branch ← if atWord "if" (← get) then conditionalUpTo g bound else g.block
      return head ++ keyword ++ branch
    else return head

/-- Read a conditional. -/
def conditional (g : Rules α) : Reader α (List Token) := do
  conditionalUpTo g ((← get).length + 1)

/-- Is this an expression that takes a comma or semicolon to end? -/
def Shape.needsEnd : Shape → Bool
  | .block => false
  | _ => true

/-- Does a call of a method follow a block? -/
def atMember (ts : Ahead α) : Bool := (atOp "." ts && !atOp ".." ts) || atOp "?" ts

/-- Does a loop label stand in front? -/
def atLabel (ts : Ahead α) : Bool := atLifetime ts && atOp ":" (next ts)

/-- Read a `for` loop. -/
def forLoop (g : Rules α) : Reader α (List Token) :=
  cat [word "for", alternatives g, word "in", g.exprCode false, g.block]

/-- Read a `while` loop. -/
def whileLoop (g : Rules α) : Reader α (List Token) :=
  cat [word "while", g.exprCode false, g.block]

/-- Read an expression whose code is given, as one that ends with its block. -/
def asBlock (p : Reader α (List Token)) : Reader α Expr := do return ⟨← p, .block⟩

/-- Read an expression whose code is given, as a plain one. -/
def asPlain (p : Reader α (List Token)) : Reader α Expr := do return ⟨← p, .plain⟩

/-- Read one arm of a `match`. -/
def matchArm (g : Rules α) (body : Reader α Expr) : Reader α (List Token) := do
  let head ← cat [attributeCode g, alternatives g,
    optional (atWord "if") (cat [word "if", g.exprCode true]), op "=>"]
  let value ← body
  let ts ← get
  let comma ← if value.shape.needsEnd && !ts.isEmpty then op "," else optOp ","
  return head ++ value.code ++ comma

/-- Read a `match`; `body` reads what an arm gives. -/
def matchExpr (g : Rules α) (body : Reader α Expr) : Reader α (List Token) :=
  cat [word "match", g.exprCode false,
    group .brace (cat [innerAttributeCode g, codeWhile (!·.isEmpty) (matchArm g body)])]

/-- Read a labelled loop or block. -/
def labelled (g : Rules α) : Reader α Expr := do
  let label ← cat [lifetime, op ":"]
  let ts ← get
  let body ←
    if atWord "while" ts then whileLoop g
    else if atWord "for" ts then forLoop g
    else if atWord "loop" ts then cat [word "loop", g.block]
    else g.block
  return ⟨label ++ body, .block⟩

/-- Read an expression that ends with its block; `none` if the input looks like no such. -/
def blockExpr? (g : Rules α) (arm : Reader α Expr) : Reader α (Option Expr) := do
  let ts ← get
  let follow := ts.drop 1
  if atWord "if" ts then some <$> asBlock (conditional g)
  else if atWord "while" ts then some <$> asBlock (whileLoop g)
  else if atWord "for" ts && !atClosure ts then some <$> asBlock (forLoop g)
  else if atWord "loop" ts then some <$> blockWith g [word "loop"]
  else if atWord "match" ts then some <$> asBlock (matchExpr g arm)
  else if atWord "try" ts && atGroup .brace follow then some <$> blockWith g [word "try"]
  else if atWord "unsafe" ts then some <$> blockWith g [word "unsafe"]
  else if atWord "const" ts && atGroup .brace follow then some <$> blockWith g [word "const"]
  else if atGroup .brace ts then some <$> blockWith g []
  else if atLabel ts then some <$> labelled g
  else return none

/-- Read an expression where one that ends with its block stands for itself, as in statements and
the arms of a `match`: no operator follows the block, unless a member is taken first. -/
def boundedExpr (g : Rules α) : Nat → Reader α Expr
  | 0 => refuse
  | depth + 1 => do
    let attrs ← attributeCode g
    match ← blockExpr? g (boundedExpr g depth) with
    | some e =>
      if atMember (← get) then
        let longer ← trailers g e
        g.operators true Precedence.lowest ⟨attrs ++ longer.code, longer.shape⟩
      else return ⟨attrs ++ e.code, e.shape⟩
    | none =>
      let first ← g.operand true
      g.operators true Precedence.lowest ⟨attrs ++ first.code, first.shape⟩

/-- Read an array, by its elements or by one element and a length. -/
def array (g : Rules α) : Reader α (List Token) :=
  group .bracket do
    if (← get).isEmpty then return []
    let first ← g.exprCode true
    let ts ← get
    if atOp ";" ts then return first ++ (← cat [op ";", g.exprCode true])
    else if atOp "," ts then
      return first ++ (← op ",") ++ (← separatedCode List.isEmpty "," (g.exprCode true))
    else return first

/-- Read an optional label and an optional value, as behind `break`. -/
def jump (g : Rules α) (record : Bool) (keyword : String) : Reader α (List Token) := do
  let head ← word keyword
  let label ← if keyword = "break" then optional atLifetime lifetime else pure []
  let ts ← get
  if !label.isEmpty && atOp ":" ts then refuse
  else if atExpr ts && (record || keyword ≠ "break" || !atGroup .brace ts) then
    return head ++ label ++ (← g.exprCode true)
  else return head ++ label

/-- Read an operand without unary operators and without what follows it. -/
def atom (g : Rules α) (record : Bool) : Reader α Expr := do
  let ts ← get
  let follow := ts.drop 1
  if atLiteral ts then asPlain literal
  else if atWord "async" ts &&
      (atGroup .brace follow || (atWord "move" follow && atGroup .brace (follow.drop 1))) then
    asPlain (cat [word "async", optWord "move", g.block])
  else if atClosure ts then closure g record
  else if atIdent ts || atOp "::" ts || atOp "<" ts || atAnyOf pathKeywords ts ||
      (atWord "try" ts && (atOp "!" follow || atOp "::" follow)) then pathExpr g record
  else if atGroup .paren ts then asPlain (commaGroup .paren (g.exprCode true))
  else if atWord "break" ts then asPlain (jump g record "break")
  else if atWord "continue" ts then
    asPlain (cat [word "continue", optional atLifetime lifetime])
  else if atWord "return" ts then asPlain (jump g record "return")
  else if atWord "yield" ts then asPlain (jump g record "yield")
  else if atGroup .bracket ts then asPlain (array g)
  else if atWord "let" ts then
    let head ← cat [word "let", alternatives g, op "="]
    let first ← g.operand record
    return ⟨head ++ (← g.operators record Precedence.compare first).code, .plain⟩
  else if atOp ".." ts then return ⟨← rangeFrom g record, .range⟩
  else if atWord "_" ts then asPlain (word "_")
  else
    match ← blockExpr? g (boundedExpr g (ts.length + 1)) with
    | some e => return e
    | none => refuse

/-- Read an operand with its attributes, unary operators and all that belongs to it. -/
def operand (g : Rules α) (record : Bool) : Reader α Expr := do
  let attrs ← attributeCode g
  let ts ← get
  if atOp "&" ts then
    let sign ← op "&"
    let ts ← get
    let raw := atWord "raw" ts && (atWord "mut" (ts.drop 1) || atWord "const" (ts.drop 1))
    let modifier ←
      if raw then cat [word "raw", anyIdent] else optWord "mut"
    return ⟨attrs ++ sign ++ modifier ++ (← g.operand record).code, .plain⟩
  else if atOp "*" ts || atOp "!" ts || atOp "-" ts then
    let sign ← if atOp "*" ts then op "*" else if atOp "!" ts then op "!" else op "-"
    return ⟨attrs ++ sign ++ (← g.operand record).code, .plain⟩
  else
    let e ← trailers g (← atom g record)
    if !attrs.isEmpty && e.shape = .range then refuse
    else return ⟨attrs ++ e.code, e.shape⟩

/-- Read an expression. -/
def expr (g : Rules α) (record : Bool) : Reader α Expr := do
  operators g record Precedence.lowest (← operand g record)

/-! ### Statements -/

/-- Does an item stand in front, from behind its attributes? -/
def atItem (ts : Ahead α) : Bool :=
  let follow := ts.drop 1
  atAnyOf ["pub", "extern", "use", "fn", "mod", "type", "struct", "enum", "trait", "impl",
      "macro"] ts ||
    (atWord "crate" ts && !atOp "::" follow) ||
    (atWord "static" ts && (atWord "mut" follow || atIdent follow)) ||
    (atWord "const" ts && !(atGroup .brace follow || atAnyOf ["static", "move"] follow ||
      atOp "|" follow ||
      (atWord "async" follow && !atAnyOf ["unsafe", "extern", "fn"] (follow.drop 1)))) ||
    (atWord "unsafe" ts && !atGroup .brace follow) ||
    (atWord "async" ts && atAnyOf ["unsafe", "extern", "fn"] follow) ||
    (atWord "union" ts && atIdent follow) ||
    (atWord "auto" ts && atWord "trait" follow) ||
    (atWord "default" ts && atAnyOf ["unsafe", "impl"] follow)

/-- Does a macro definition stand in front, such as `macro_rules! name`? -/
def atMacroItem (ts : Ahead α) : Bool :=
  match (modPath : Reader α ModPath) ts with
  | some (_, rest) => atOp "!" rest && (atIdent (rest.drop 1) || atWord "try" (rest.drop 1))
  | none => false

/-- Does a macro call with braces stand in front that is a statement by itself? -/
def atMacroStatement (ts : Ahead α) : Bool :=
  match (modPath : Reader α ModPath) ts with
  | some (_, rest) => atOp "!" rest && atGroup .brace (rest.drop 1) && !atMember (rest.drop 2)
  | none => false

/-- Read a `let` statement. -/
def localBinding (g : Rules α) : Reader α (List Token) :=
  cat [word "let", g.pattern,
    optional (atOp ":") (cat [op ":", g.type true]),
    optional (atOp "=") (cat [op "=", g.exprCode true,
      optional (atWord "else") (cat [word "else", g.block])]),
    op ";"]

/-- Read a statement: its code, and whether it has to be the last one. -/
def statement (g : Rules α) : Reader α (List Token × Bool) := do
  let start ← get
  let attrs ← attributeCode g
  let ts ← get
  if atWord "let" ts then return (attrs ++ (← localBinding g), false)
  else if atItem ts || atMacroItem ts then
    set start
    return (← g.item, false)
  else if atMacroStatement ts then
    let path ← modPath
    let (_, call) ← macroCall
    return (attrs ++ path.tokens ++ call ++ (← optOp ";"), false)
  else
    let e ← boundedExpr g (ts.length + 1)
    let semicolon ← optOp ";"
    let last := semicolon.isEmpty && e.shape.needsEnd && e.shape ≠ .bracedMacro
    return (attrs ++ e.code ++ semicolon, last)

/-- Read statements to the end of the input, at most `bound` of them. -/
def statementsUpTo (g : Rules α) : Nat → Reader α (List Token)
  | 0 => return []
  | bound + 1 => do
    let empty ← codeWhile (atOp ";") (op ";")
    if (← get).isEmpty then return empty
    let (code, last) ← statement g
    if last && !(← get).isEmpty then refuse
    else return empty ++ code ++ (← statementsUpTo g bound)

/-- Read a block of statements. -/
def block (g : Rules α) : Reader α (List Token) :=
  group .brace do
    let inner ← innerAttributeCode g
    return inner ++ (← statementsUpTo g ((← get).length + 1))

end Grammar

end FallbackEnum
