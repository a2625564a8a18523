import FallbackEnum.Token.Basic

/-!
# Writing generated code

Fixed pieces of generated code are written as words with spaces between them: names, operators
and lifetimes. Groups are put together from their contents.
-/

namespace FallbackEnum

namespace Token

/-- The tokens of one word: a lifetime, a name, or an operator. -/
def ofWord : List Char → List Token
  | [] => []
  | '\'' :: name => lifetime (String.ofList name)
  | c :: rest =>
    if c.isAlphanum || c = '_' then [word (String.ofList (c :: rest))]
    else operatorChars (c :: rest)

/-- The tokens of words with spaces between them. -/
def words (text : String) : List Token := (text.toList.splitOn ' ').flatMap ofWord

end Token

end FallbackEnum
