import FallbackEnum.Derive
import FallbackEnum.Routine
import FallbackEnum.Validation

/-!
# Expansion

An expansion reads the declaration, completes the arguments, checks the variants, and generates
the missing declarations, in that order. The first fault ends it, and then nothing is generated.
The result is rendered as a list of declarations.
-/

namespace FallbackEnum

/-! ### Expanding -/

/-- A generated member of the enum. -/
inductive Member where
  | variant (v : Variant)
  | routine (r : DecodeRoutine)

/-- Everything that one expansion gives. -/
structure Expansion where
  /-- The members to add: the fallback, unless it is declared, and the routine. -/
  members : List Member := []
  /-- The lookup that the routine uses. -/
  lookup : Option RawLookup := none
  /-- The conformance of an enum that derives none. -/
  extension : Option Conformance := none
  /-- The conformance that takes the place of a derived one. -/
  deriveReplacement : Option Conformance := none
  kind : Option RawKind := none
  diagnostics : List Diagnostic := []

namespace Expansion

/-- The expansion that only reports a fault. -/
def failed (d : Diagnostic) : Expansion := { diagnostics := [d] }

/-- Is there no fault? -/
def isSuccess (e : Expansion) : Bool := e.diagnostics.isEmpty

/-- The fallback among the members. -/
def fallbackVariant? (e : Expansion) : Option Variant :=
  e.members.findSome? fun
    | .variant v => some v
    | .routine _ => none

/-- The routines among the members. -/
def routines (e : Expansion) : List DecodeRoutine :=
  e.members.filterMap fun
    | .routine r => some r
    | .variant _ => none

end Expansion

namespace EnumDecl

/-- The conformance of an enum that derives none. -/
def extension? (decl : EnumDecl) : Option Conformance :=
  if decl.declaresDecoding then none else some ⟨decl.name⟩

/-- The conformance that takes the place of a derived one. -/
def deriveReplacement? (decl : EnumDecl) : Option Conformance :=
  if decl.declaresDecoding then some ⟨decl.name⟩ else none

/-- The declarations for an enum under a configuration. -/
def generate (decl : EnumDecl) (config : Configuration) : Expansion where
  members := ((decl.missingFallback? config).map Member.variant).toList ++
    [.routine (DecodeRoutine.ofConfiguration config)]
  lookup := some (decl.lookup config)
  extension := decl.extension?
  deriveReplacement := decl.deriveReplacement?
  kind := some config.kind

end EnumDecl

namespace Item

/-- The enum that the item has to be. -/
def requireEnum (item : Item) : Except Diagnostic EnumDecl :=
  match item with
  | .enum decl => .ok decl
  | .other _ span => .error ⟨.notAnEnum, span⟩

/-- Expand an item, or report the first fault. -/
def expand? (item : Item) (args : Arguments) : Except Diagnostic Expansion := do
  let decl ← item.requireEnum
  match decl.rawKind? with
  | none => .error ⟨.invalidRawValue, decl.span⟩
  | some kind =>
    let config ← Configuration.resolve kind args decl.span
    decl.validate kind config.safeCase config.fallback
    return decl.generate config

/-- Expand an item. -/
def expand (item : Item) (args : Arguments) : Expansion :=
  match item.expand? args with
  | .ok expansion => expansion
  | .error d => Expansion.failed d

end Item

/-! ### Rendering -/

/-- A declaration of the rendered code. -/
inductive Declaration where
  | item (i : Item)
  /-- The implementation that holds the routines of an enum. -/
  | inherent (enumName : String) (routines : List DecodeRoutine)
  | lookup (l : RawLookup)
  | conformance (c : Conformance)
  | error (d : Diagnostic)

namespace Declaration

/-- The code of a declaration. -/
def tokens : Declaration → List Token
  | item i => i.tokens
  | inherent enumName routines =>
    Token.words "impl" ++ [.word enumName] ++
      Token.braces (routines.flatMap DecodeRoutine.tokens)
  | lookup l => l.tokens
  | conformance c => c.tokens
  | error d => d.compileError

end Declaration

namespace EnumDecl

/-- Take the texts out of a declaration: no `repr` and no discriminant is left. -/
def dropRawValues (decl : EnumDecl) : EnumDecl :=
  { decl with
    attrs := decl.attrs.filter (!·.isNamed "repr")
    variants := decl.variants.map fun v => { v with discriminant := none } }

/-- The enum of a successful expansion: with its fallback, without texts, and without the derives
that are replaced. -/
def applied (decl : EnumDecl) (expansion : Expansion) : EnumDecl :=
  let extended :=
    match expansion.fallbackVariant? with
    | some v => decl.push v
    | none => decl
  let untexted := if expansion.kind = some .text then extended.dropRawValues else extended
  if expansion.deriveReplacement.isSome then untexted.stripDecoding else untexted

end EnumDecl

namespace Item

/-- The item of a failed expansion: as it was declared, but without texts, which only the
expansion gives a meaning. -/
def kept (item : Item) : Item :=
  match item with
  | .enum decl => if decl.rawKind? = some .text then .enum decl.dropRawValues else item
  | .other _ _ => item

/-- The declarations that take the place of an item after its expansion. -/
def render (item : Item) (expansion : Expansion) : List Declaration :=
  match item, expansion.isSuccess with
  | .enum decl, true =>
    let applied := decl.applied expansion
    [.item (.enum applied), .inherent applied.name expansion.routines] ++
      (expansion.lookup.map .lookup).toList ++
      (expansion.extension.map .conformance).toList ++
      (expansion.deriveReplacement.map .conformance).toList
  | _, _ => .item item.kept :: expansion.diagnostics.map .error

/-- The item after its expansion. -/
def expanded (item : Item) (args : Arguments) : Item :=
  let expansion := item.expand args
  match item, expansion.isSuccess with
  | .enum decl, true => .enum (decl.applied expansion)
  | _, _ => item.kept

end Item

/-- The code of rendered declarations. -/
def renderTokens (declarations : List Declaration) : List Token :=
  declarations.flatMap Declaration.tokens

end FallbackEnum
