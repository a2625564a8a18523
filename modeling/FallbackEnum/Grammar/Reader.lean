import FallbackEnum.Declaration.Basic
import FallbackEnum.Text.Digits

/-!
# Readers of code

A reader takes trees from the front of the input and gives what it recognised, usually the same
code in its normal spacing. Readers do not backtrack: which way to go is decided by looking
ahead. Loops are bounded by the length of the input, since every turn takes at least one tree.
-/

namespace FallbackEnum

namespace Grammar

/-- Marks that know a place in a source. -/
class Placed (α : Type) where
  place : α → Span

instance : Placed Span := ⟨id⟩

instance : Placed Unit := ⟨fun _ => Span.nowhere⟩

/-- A reader of values of `β`. -/
abbrev Reader (α β : Type) := StateT (List (TokenTree α)) Option β

variable {α β γ : Type}

/-- A reader that succeeds hands its value and the rest to the next one. -/
theorem bind_of_some {p : Reader α β} {f : β → Reader α γ} {ts rest : List (TokenTree α)} {b : β}
    (h : p ts = some (b, rest)) : (p >>= f) ts = f b rest := by
  simp only [bind, StateT.bind, h, Option.bind_some]

/-- What looks ahead is handed the input, and reads all of it. -/
theorem get_bind (f : List (TokenTree α) → Reader α β) (ts : List (TokenTree α)) :
    (get >>= f) ts = f ts ts := rfl

/-! ### Looking ahead -/

/-- An input that is looked at. -/
abbrev Ahead (α : Type) := List (TokenTree α)

/-- The input behind its first tree. A lifetime counts as one. -/
def next : Ahead α → Ahead α
  | .punct _ '\'' .joint :: .ident _ _ :: rest => rest
  | _ :: rest => rest
  | [] => []

/-- Does the word stand in front? -/
def atWord (word : String) : Ahead α → Bool
  | .ident _ name :: _ => name == word
  | _ => false

/-- Does any of the words stand in front? -/
def atAnyOf (words : List String) (ts : Ahead α) : Bool := words.any (atWord · ts)

/-- Do these punctuation characters stand in front, joined to each other? -/
def atChars : List Char → Ahead α → Bool
  | [], _ => true
  | [c], .punct _ d _ :: _ => c == d && c != '\''
  | c :: more, .punct _ d .joint :: rest => c == d && atChars more rest
  | _, _ => false

/-- Does the operator stand in front? A longer operator begins with a shorter one. -/
def atOp (text : String) (ts : Ahead α) : Bool := atChars text.toList ts

/-- Does a name stand in front that is no keyword? -/
def atIdent : Ahead α → Bool
  | .ident _ name :: _ => !Keyword.isReserved name
  | _ => false

/-- Does a name or keyword stand in front? -/
def atAnyIdent : Ahead α → Bool
  | .ident _ _ :: _ => true
  | _ => false

/-- Does a group with this delimiter stand in front? -/
def atGroup (delimiter : Delimiter) : Ahead α → Bool
  | .group _ d _ :: _ => d == delimiter
  | _ => false

/-- Does a lifetime stand in front? -/
def atLifetime : Ahead α → Bool
  | .punct _ '\'' .joint :: .ident _ _ :: _ => true
  | _ => false

/-- Is this the spelling of a number? -/
def isNumeral (text : String) : Bool :=
  match Literal.value text with
  | .integer _ => true
  | .fraction => true
  | _ => false

/-- Does a literal stand in front? Truth values and negated numbers count. -/
def atLiteral : Ahead α → Bool
  | .literal _ _ :: _ => true
  | .ident _ name :: _ => name == "true" || name == "false"
  | .punct _ '-' _ :: .literal _ text :: _ => isNumeral text
  | _ => false

/-! ### Elementary readers -/

/-- Refuse. -/
def refuse : Reader α β := fun _ => none

/-- Read the word. -/
def word (text : String) : Reader α (List Token) := fun ts =>
  if atWord text ts then some ([.word text], ts.drop 1) else none

/-- Read the operator. -/
def op (text : String) : Reader α (List Token) := fun ts =>
  if atOp text ts then some (Token.operator text, ts.drop text.length) else none

/-- Read a name or keyword. -/
def anyName : Reader α String
  | .ident _ name :: rest => some (name, rest)
  | _ => none

/-- Read a name that is no keyword. -/
def name : Reader α String
  | .ident _ name :: rest => if Keyword.isReserved name then none else some (name, rest)
  | _ => none

/-- Read the name of what is declared. -/
def declaredName : Reader α Name
  | .ident _ text :: rest => (Name.ofText? text).map (·, rest)
  | _ => none

/-- Read the name of a segment of a path. -/
def pathName : Reader α PathSegment
  | .ident _ name :: rest =>
    if h : Keyword.isPathName name = true then some ({ name, isPathName := h }, rest) else none
  | _ => none

/-- The code of a name that is no keyword. -/
def ident : Reader α (List Token) := do return [.word (← name)]

/-- The code of a name or keyword. -/
def anyIdent : Reader α (List Token) := do return [.word (← anyName)]

/-- Read a lifetime. -/
def lifetime : Reader α (List Token)
  | .punct _ '\'' .joint :: .ident _ name :: rest => some (Token.lifetime name, rest)
  | _ => none

/-- Read a literal; the sign of a number becomes part of it. -/
def literal : Reader α (List Token)
  | .literal _ text :: rest => some ([.lit text], rest)
  | .ident _ name :: rest =>
    if name = "true" ∨ name = "false" then some ([.word name], rest) else none
  | .punct _ '-' _ :: .literal _ text :: rest =>
    if isNumeral text then some ([.lit ("-" ++ text)], rest) else none
  | _ => none

/-- Read a text literal. -/
def textLiteral : Reader α (List Token)
  | .literal _ text :: rest =>
    match Literal.value text with
    | .text _ => some ([.lit text], rest)
    | _ => none
  | _ => none

/-- Read a group to the end of its content. -/
def within (delimiter : Delimiter) (content : Reader α β) : Reader α β
  | .group _ d inner :: rest =>
    if d = delimiter then
      match content inner with
      | some (value, []) => some (value, rest)
      | _ => none
    else none
  | _ => none

/-- The code of a group by the code of its content. -/
def group (delimiter : Delimiter) (content : Reader α (List Token)) : Reader α (List Token) := do
  return [Token.delimited delimiter (← within delimiter content)]

/-- Read a group of any delimiter and content, which is kept as it is written. -/
def anyGroup : Reader α (Delimiter × List Token)
  | .group _ d inner :: rest => some ((d, inner.map TokenTree.forget), rest)
  | _ => none

/-! ### Combinations -/

/-- Read one after another. -/
def cat : List (Reader α (List Token)) → Reader α (List Token)
  | [] => pure []
  | p :: ps => do
    let first ← p
    let rest ← cat ps
    return first ++ rest

/-- Read `p` if the input looks like it. -/
def optional (ahead : Ahead α → Bool) (p : Reader α (List Token)) : Reader α (List Token) := do
  if ahead (← get) then p else return []

/-- Read the word if it is there. -/
def optWord (text : String) : Reader α (List Token) := optional (atWord text) (word text)

/-- Read the operator if it is there. -/
def optOp (text : String) : Reader α (List Token) := optional (atOp text) (op text)

/-- Read as long as the input looks like it, at most `bound` times. -/
def repeatUpTo (ahead : Ahead α → Bool) (p : Reader α β) : Nat → Reader α (List β)
  | 0 => return []
  | bound + 1 => do
    if ahead (← get) then
      let first ← p
      let rest ← repeatUpTo ahead p bound
      return first :: rest
    else return []

theorem repeatUpTo_stop {ahead : Ahead α → Bool} {ts : List (TokenTree α)} (h : ahead ts = false)
    (p : Reader α β) (bound : Nat) : repeatUpTo ahead p bound ts = some ([], ts) := by
  cases bound with
  | zero => rfl
  | succ bound =>
    rw [repeatUpTo, get_bind, h, if_neg Bool.false_ne_true]
    rfl

theorem repeatUpTo_step {ahead : Ahead α → Bool} {p : Reader α β}
    {ts after rest : List (TokenTree α)}
    {b : β} {bs : List β} {bound : Nat} (h : ahead ts = true) (hp : p ts = some (b, after))
    (hrest : repeatUpTo ahead p bound after = some (bs, rest)) :
    repeatUpTo ahead p (bound + 1) ts = some (b :: bs, rest) := by
  rw [repeatUpTo, get_bind, if_pos h, bind_of_some hp, bind_of_some hrest]
  rfl

/-- Read as long as the input looks like it. -/
def repeatWhile (ahead : Ahead α → Bool) (p : Reader α β) : Reader α (List β) := do
  repeatUpTo ahead p (← get).length

/-- Read code as long as the input looks like it. -/
def codeWhile (ahead : Ahead α → Bool) (p : Reader α (List Token)) : Reader α (List Token) := do
  return (← repeatWhile ahead p).flatten

/-- Pieces with separators between them, and perhaps one at the end. -/
structure Separated (β : Type) where
  pieces : List β
  trailing : Bool

/-- Read pieces and separators, at most `bound` pieces. -/
def separatedUpTo (stop : Ahead α → Bool) (separator : String) (p : Reader α β) :
    Nat → Reader α (Separated β)
  | 0 => return ⟨[], false⟩
  | bound + 1 => do
    if stop (← get) then return ⟨[], false⟩
    else
      let first ← p
      if atOp separator (← get) then
        let _ ← op separator
        let rest ← separatedUpTo stop separator p bound
        return ⟨first :: rest.pieces, rest.pieces.isEmpty || rest.trailing⟩
      else return ⟨[first], false⟩

theorem separatedUpTo_stop {stop : Ahead α → Bool} {ts : List (TokenTree α)} (h : stop ts = true)
    (separator : String) (p : Reader α β) (bound : Nat) :
    separatedUpTo stop separator p bound ts = some (⟨[], false⟩, ts) := by
  cases bound with
  | zero => rfl
  | succ bound =>
    rw [separatedUpTo, get_bind, if_pos h]
    rfl

theorem separatedUpTo_last {stop : Ahead α → Bool} {separator : String} {p : Reader α β}
    {ts rest : List (TokenTree α)} {b : β} (h : stop ts = false) (hp : p ts = some (b, rest))
    (hrest : atOp separator rest = false) (bound : Nat) :
    separatedUpTo stop separator p (bound + 1) ts = some (⟨[b], false⟩, rest) := by
  rw [separatedUpTo, get_bind, h, if_neg Bool.false_ne_true, bind_of_some hp, get_bind, hrest,
    if_neg Bool.false_ne_true]
  rfl

theorem separatedUpTo_step {stop : Ahead α → Bool} {separator : String} {p : Reader α β}
    {ts after next rest : List (TokenTree α)} {b : β} {bs : Separated β} {code : List Token}
    {bound : Nat} (h : stop ts = false) (hp : p ts = some (b, after))
    (hat : atOp separator after = true) (hop : op separator after = some (code, next))
    (hrest : separatedUpTo stop separator p bound next = some (bs, rest)) :
    separatedUpTo stop separator p (bound + 1) ts =
      some (⟨b :: bs.pieces, bs.pieces.isEmpty || bs.trailing⟩, rest) := by
  rw [separatedUpTo, get_bind, h, if_neg Bool.false_ne_true, bind_of_some hp, get_bind,
    if_pos hat, bind_of_some hop, bind_of_some hrest]
  rfl

/-- Read pieces and separators until `stop`, or until no separator follows a piece. -/
def separated (stop : Ahead α → Bool) (separator : String) (p : Reader α β) :
    Reader α (Separated β) := do
  separatedUpTo stop separator p (← get).length

/-- The code of pieces with separators. -/
def Separated.code (separator : String) (s : Separated (List Token)) : List Token :=
  go s.pieces
where
  /-- The code of pieces of which the first is not preceded by a separator. -/
  go : List (List Token) → List Token
    | [] => []
    | [last] => last ++ if s.trailing then Token.operator separator else []
    | piece :: rest => piece ++ Token.operator separator ++ go rest

/-- The code of pieces that are read until `stop`. -/
def separatedCode (stop : Ahead α → Bool) (separator : String) (p : Reader α (List Token)) :
    Reader α (List Token) := do
  return (← separated stop separator p).code separator

/-- The code of a group whose pieces have commas between them. -/
def commaGroup (delimiter : Delimiter) (p : Reader α (List Token)) : Reader α (List Token) :=
  group delimiter (separatedCode List.isEmpty "," p)

/-! ### Paths of plain names -/

/-- The keywords that may stand for a name in a path. -/
def pathKeywords : List String := ["super", "self", "Self", "crate"]

/-- Does a name of a path stand in front? -/
def atPathName (ts : Ahead α) : Bool := atIdent ts || atAnyOf pathKeywords ts

/-- Read a path of plain names. -/
def modPath : Reader α ModPath := do
  let leading ← optOp "::"
  let names ← separated (fun ts => !atPathName ts) "::" anyName
  if names.pieces.isEmpty || names.trailing then refuse
  else return ⟨!leading.isEmpty, names.pieces⟩

/-- Does a macro call stand in front, from behind its path? -/
def atBang (ts : Ahead α) : Bool := atOp "!" ts && !atOp "!=" ts

/-- Read the call of a macro from behind its path: its delimiter and its code. -/
def macroCall : Reader α (Delimiter × List Token) := do
  let bang ← op "!"
  let (delimiter, arguments) ← anyGroup
  return (delimiter, bang ++ [Token.delimited delimiter arguments])

end Grammar

end FallbackEnum
