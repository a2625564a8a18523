/-!
# Token trees

Source text is a forest of token trees: identifiers, punctuation characters, literals, and groups
between delimiters. Each node carries a mark. Scanned trees are marked with the place they were
read from; trees that only stand for code carry none.

Printing puts one space between two tokens, except after a punctuation character that is joined
to the next one.
-/

namespace FallbackEnum

/-! ### Places in a source -/

/-- A place between two characters. Lines count from one, columns from zero. -/
structure Position where
  line : Nat
  column : Nat
deriving DecidableEq, Repr, Inhabited

namespace Position

/-- Where a source begins. -/
def start : Position := ⟨1, 0⟩

/-- The place after one more character. -/
def advance (p : Position) (c : Char) : Position :=
  if c = '\n' then ⟨p.line + 1, 0⟩ else ⟨p.line, p.column + 1⟩

end Position

/-- A stretch of a source, without its end. -/
structure Span where
  start : Position
  stop : Position
deriving DecidableEq, Repr

namespace Span

/-- The span of code that was not read from a source, and of the end of an input. -/
def nowhere : Span := ⟨Position.start, Position.start⟩

instance : Inhabited Span := ⟨nowhere⟩

/-- The span of the first character of a span. -/
def first (s : Span) : Span := ⟨s.start, ⟨s.start.line, s.start.column + 1⟩⟩

/-- From the beginning of one span to the end of another. -/
def through (s t : Span) : Span := ⟨s.start, t.stop⟩

end Span

/-! ### Trees -/

/-- The three pairs of delimiters. -/
inductive Delimiter where
  | paren
  | bracket
  | brace
deriving DecidableEq, Repr, Inhabited

/-- Is a punctuation character joined to the one that follows? -/
inductive Spacing where
  | alone
  | joint
deriving DecidableEq, Repr, Inhabited

/-- A token tree whose nodes are marked with values of `α`. -/
inductive TokenTree (α : Type) where
  | ident (mark : α) (name : String)
  | punct (mark : α) (char : Char) (spacing : Spacing)
  | literal (mark : α) (text : String)
  | group (mark : α) (delimiter : Delimiter) (inner : List (TokenTree α))
deriving Repr, Inhabited

/-- A token tree without places. -/
abbrev Token := TokenTree Unit

namespace TokenTree

variable {α : Type}

/-- The mark of the root. -/
def mark : TokenTree α → α
  | .ident m _ => m
  | .punct m _ _ => m
  | .literal m _ => m
  | .group m _ _ => m

mutual

/-- The tree without its marks. -/
def forget : TokenTree α → Token
  | .ident _ name => .ident () name
  | .punct _ char spacing => .punct () char spacing
  | .literal _ text => .literal () text
  | .group _ delimiter inner => .group () delimiter (forgetAll inner)

/-- The trees without their marks. -/
def forgetAll : List (TokenTree α) → List Token
  | [] => []
  | t :: ts => t.forget :: forgetAll ts

end

@[simp] theorem forgetAll_eq_map (ts : List (TokenTree α)) :
    forgetAll ts = ts.map forget := by
  induction ts with
  | nil => simp [forgetAll]
  | cons t ts ih => simp [forgetAll, ih]

mutual

/-- How many nodes a tree has. -/
def weight : TokenTree α → Nat
  | .ident _ _ => 1
  | .punct _ _ _ => 1
  | .literal _ _ => 1
  | .group _ _ inner => weightAll inner + 1

/-- How many nodes a forest has. -/
def weightAll : List (TokenTree α) → Nat
  | [] => 0
  | t :: ts => t.weight + weightAll ts

end

end TokenTree

/-! ### Equality -/

namespace TokenTree

variable {α : Type} [DecidableEq α]

-- The trees in a group are nested in a list, so the two equalities are decided together.
mutual

/-- Decide whether two trees are equal. -/
def decEq (s t : TokenTree α) : Decidable (s = t) :=
  match s, t with
  | .ident m name, .ident m' name' => decidable_of_iff (m = m' ∧ name = name') (by simp)
  | .punct m char spacing, .punct m' char' spacing' =>
    decidable_of_iff (m = m' ∧ char = char' ∧ spacing = spacing') (by simp)
  | .literal m text, .literal m' text' => decidable_of_iff (m = m' ∧ text = text') (by simp)
  | .group m delimiter inner, .group m' delimiter' inner' =>
    have := decEqAll inner inner'
    decidable_of_iff (m = m' ∧ delimiter = delimiter' ∧ inner = inner') (by simp)
  | .ident _ _, .punct _ _ _ | .ident _ _, .literal _ _ | .ident _ _, .group _ _ _
  | .punct _ _ _, .ident _ _ | .punct _ _ _, .literal _ _ | .punct _ _ _, .group _ _ _
  | .literal _ _, .ident _ _ | .literal _ _, .punct _ _ _ | .literal _ _, .group _ _ _
  | .group _ _ _, .ident _ _ | .group _ _ _, .punct _ _ _ | .group _ _ _, .literal _ _ =>
    isFalse nofun

/-- Decide whether two forests are equal. -/
def decEqAll (ss ts : List (TokenTree α)) : Decidable (ss = ts) :=
  match ss, ts with
  | [], [] => isTrue rfl
  | s :: ss, t :: ts =>
    have := decEq s t
    have := decEqAll ss ts
    decidable_of_iff (s = t ∧ ss = ts) (by simp)
  | [], _ :: _ | _ :: _, [] => isFalse nofun

end

instance : DecidableEq (TokenTree α) := decEq

end TokenTree

/-! ### Printing -/

namespace Delimiter

/-- What is printed before the content of a group. -/
def opening : Delimiter → List Char
  | paren => ['(']
  | bracket => ['[']
  | brace => ['{', ' ']

/-- What is printed after the content of a group; a brace keeps its distance from a token. -/
def closing (empty : Bool) : Delimiter → List Char
  | paren => [')']
  | bracket => [']']
  | brace => if empty then ['}'] else [' ', '}']

end Delimiter

namespace TokenTree

variable {α : Type}

/-- Does the next token follow without a space? -/
def gluesNext : TokenTree α → Bool
  | .punct _ _ .joint => true
  | _ => false

mutual

/-- The printed form of one tree. -/
def chars : TokenTree α → List Char
  | .ident _ name => name.toList
  | .punct _ char _ => [char]
  | .literal _ text => text.toList
  | .group _ delimiter inner =>
    delimiter.opening ++ charsAll true inner ++ delimiter.closing inner.isEmpty

/-- The printed form of a forest, beginning with a space unless `glued`. -/
def charsAll (glued : Bool) : List (TokenTree α) → List Char
  | [] => []
  | t :: ts => (if glued then [] else [' ']) ++ t.chars ++ charsAll t.gluesNext ts

end

end TokenTree

/-- The printed form of a sequence of token trees. -/
def printTokens {α : Type} (ts : List (TokenTree α)) : String :=
  String.ofList (TokenTree.charsAll true ts)

/-! ### Writing code -/

namespace Token

/-- An identifier or keyword. -/
def word (name : String) : Token := .ident () name

/-- A literal by its spelling. -/
def lit (text : String) : Token := .literal () text

/-- A group of tokens. -/
def delimited (delimiter : Delimiter) (inner : List Token) : Token :=
  TokenTree.group () delimiter inner

/-- An operator: its characters are joined, and the last one stands alone. -/
def operatorChars : List Char → List Token
  | [] => []
  | [c] => [.punct () c .alone]
  | c :: d :: rest => .punct () c .joint :: operatorChars (d :: rest)

/-- An operator by its spelling. -/
def operator (text : String) : List Token := operatorChars text.toList

/-- A lifetime such as `'a`. -/
def lifetime (name : String) : List Token := [.punct () '\'' .joint, .ident () name]

/-- Tokens in parentheses. -/
def parens (inner : List Token) : List Token := [delimited .paren inner]

/-- Tokens in brackets. -/
def brackets (inner : List Token) : List Token := [delimited .bracket inner]

/-- Tokens in braces. -/
def braces (inner : List Token) : List Token := [delimited .brace inner]

end Token

end FallbackEnum
