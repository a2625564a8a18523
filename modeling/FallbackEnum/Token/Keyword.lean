/-!
# Keywords

The words that cannot name anything unless they are written with the raw mark `r#`.
-/

namespace FallbackEnum

namespace Keyword

/-- Strict and reserved keywords, and the underscore. -/
def all : List String :=
  ["_", "abstract", "as", "async", "await", "become", "box", "break", "const", "continue",
    "crate", "do", "dyn", "else", "enum", "extern", "false", "final", "fn", "for", "if", "impl",
    "in", "let", "loop", "macro", "match", "mod", "move", "mut", "override", "priv", "pub",
    "ref", "return", "Self", "self", "static", "struct", "super", "trait", "true", "try", "type",
    "typeof", "unsafe", "unsized", "use", "virtual", "where", "while", "yield"]

/-- Is this word reserved? A raw identifier never is. -/
def isReserved (name : String) : Bool := all.contains name

/-- The reserved words that may stand for a name in a path. -/
def inPaths : List String := ["super", "self", "Self", "crate", "try"]

/-- Can this word stand in a path? -/
def isPathName (name : String) : Bool := !isReserved name || inPaths.contains name

/-- A name without its raw mark. -/
def unraw (name : String) : String :=
  match name.toList with
  | 'r' :: '#' :: rest => String.ofList rest
  | _ => name

end Keyword

end FallbackEnum
