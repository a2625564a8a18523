import FallbackEnum.Grammar.Rules

/-!
# Attributes

Outer attributes `#[…]` stand before what they describe, inner attributes `#![…]` inside of it.
The arguments of an attribute are any code; its value is an expression.
-/

namespace FallbackEnum

namespace Grammar

variable {α : Type}

/-- Read the path of an attribute, which may be the word `unsafe`. -/
def attributePath : Reader α ModPath := do
  if atWord "unsafe" (← get) then
    return { segments := [← anyName] }
  else modPath

/-- Read the value of an attribute. -/
def attributeValue (g : Rules α) : Reader α (List Token) := do
  let ts ← get
  match literal ts with
  | some (code, []) =>
    set ([] : Ahead α)
    return code
  | _ =>
    if atOp "#" ts && atGroup .bracket (ts.drop 1) then refuse
    else g.exprCode true

/-- Read a comma-separated list of paths. -/
def pathList (g : Rules α) : Reader α (List TraitPath) := do
  return (← separated List.isEmpty "," g.path).pieces

/-- Read a path and what belongs to it. -/
def attributeMeta (g : Rules α) : Reader α Attribute := do
  let path ← attributePath
  let ts ← get
  match ts with
  | .group _ delimiter inner :: rest =>
    set rest
    return ⟨path, .list delimiter (inner.map TokenTree.forget)⟩
  | _ =>
    if atOp "=" ts then
      let _ ← op "="
      return ⟨path, .value (← attributeValue g)⟩
    else return ⟨path, .bare⟩

/-- Read one outer attribute. -/
def outerAttribute (g : Rules α) : Reader α Attribute := do
  let _ ← op "#"
  within .bracket (attributeMeta g)

/-- Read the outer attributes in front. -/
def attributes (g : Rules α) : Reader α (List Attribute) :=
  repeatWhile (atOp "#") (outerAttribute g)

/-- The code of the outer attributes in front. -/
def attributeCode (g : Rules α) : Reader α (List Token) := do
  return (← attributes g).flatMap Attribute.tokens

/-- Does an inner attribute stand in front? -/
def atInnerAttribute (ts : Ahead α) : Bool :=
  atOp "#" ts && atOp "!" (ts.drop 1) && atGroup .bracket (ts.drop 2)

/-- The code of the inner attributes in front. -/
def innerAttributeCode (g : Rules α) : Reader α (List Token) :=
  codeWhile atInnerAttribute do
    let _ ← op "#"
    let _ ← op "!"
    let attr ← within .bracket (attributeMeta g)
    return Token.operator "#" ++ Token.operator "!" ++ Token.brackets attr.metaTokens

/-- Read a comma-separated list of metas, as in the arguments of `repr`. -/
def metaList (g : Rules α) : Reader α (List Attribute) := do
  return (← separated List.isEmpty "," (attributeMeta g)).pieces

/-- Read a visibility. Parentheses behind `pub` belong to it only if they hold a scope. -/
def visibility : Reader α Visibility := do
  if !atWord "pub" (← get) then return .inherited
  let _ ← word "pub"
  match ← get with
  | .group _ .paren inner :: _ =>
    match inner with
    | [.ident _ scope] =>
      if ["crate", "self", "super"].contains scope then
        let _ ← anyGroup
        return .restricted [.word scope]
      else return .everywhere
    | _ =>
      if atWord "in" inner then
        let path ← within .paren do
          let _ ← word "in"
          modPath
        return .restricted (.word "in" :: path.tokens)
      else return .everywhere
  | _ => return .everywhere

end Grammar

end FallbackEnum
