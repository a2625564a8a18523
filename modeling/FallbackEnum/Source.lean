import FallbackEnum.Arguments.Parser
import FallbackEnum.Grammar.Item
import FallbackEnum.Token.Lexer

/-!
# Reading sources

Items, arguments and names by their source text.
-/

namespace FallbackEnum

namespace Item

/-- The one item that a source holds. -/
def ofText? (source : String) : Option Item := (TokenTree.lex? source).bind parse?

/-- Print an item and read it again: the same item, at the places of its printed form. -/
def reread? (item : Item) : Option Item := ofText? (printTokens item.tokens)

end Item

namespace Variant

/-- The one variant that a source holds. -/
def ofText? (source : String) : Option Variant := (TokenTree.lex? source).bind parse?

end Variant

namespace Attribute

/-- The outer attributes that a source holds. -/
def allOfText? (source : String) : Option (List Attribute) :=
  (TokenTree.lex? source).bind parseAll?

end Attribute

namespace Keyword

/-- The one name that a source holds. -/
def nameOfText? (source : String) : Option String :=
  match TokenTree.lex? source with
  | some [.ident _ name] => if isReserved name then none else some name
  | _ => none

end Keyword

/-- Why a text gives no arguments. -/
inductive ArgumentTextError where
  /-- The text has no tokens. -/
  | lexical
  /-- The tokens are no arguments. -/
  | grammatical (error : ArgumentError)
deriving DecidableEq, Repr

namespace Arguments

/-- The arguments that a source holds. -/
def ofText (source : String) : Except ArgumentTextError Arguments :=
  match TokenTree.lex? source with
  | none => .error .lexical
  | some tokens => (parse tokens).mapError .grammatical

end Arguments

end FallbackEnum
