import FallbackEnum.Text.Quoted
import FallbackEnum.Token.Name

/-!
# Scanning source text

A source is cut into lexemes, one at a time; a lexeme is a token, a delimiter, a piece of blank
space or a comment. The lexemes with their places are then assembled into token trees. A source
that cannot be cut, or whose delimiters do not pair up, has no tokens at all.
-/

namespace FallbackEnum

open Text

/-! ### Lexemes -/

/-- A piece of source text. -/
inductive Lexeme where
  | ident (name : String)
  | punct (char : Char) (spacing : Spacing)
  | literal (text : String)
  | opening (delimiter : Delimiter)
  | closing (delimiter : Delimiter)
  /-- A documentation comment, about the following declaration or (`inner`) the enclosing one. -/
  | doc (inner : Bool) (body : String)
  /-- Blank space or a plain comment. -/
  | blank
deriving Repr

namespace Lexeme

/-! ### Blank space and comments -/

/-- Blank space: the white space of the standard and the two directional marks. -/
def isBlank (c : Char) : Bool :=
  c = ' ' || ('\t' ≤ c && c ≤ '\r') ||
    CodeRanges.contains
      [(0x85, 0x85), (0xA0, 0xA0), (0x1680, 0x1680), (0x2000, 0x200A), (0x200E, 0x200F),
        (0x2028, 0x2029), (0x202F, 0x202F), (0x205F, 0x205F), (0x3000, 0x3000)] c

/-- The rest of a line, without its line end, and what follows. A carriage return before the line
feed is passed over. -/
def splitLine : List Char → List Char × List Char
  | [] => ([], [])
  | c :: rest =>
    if c = '\n' then ([], c :: rest)
    else if c = '\r' && rest.head? = some '\n' then ([], rest)
    else
      let (line, after) := splitLine rest
      (c :: line, after)

/-- The inside of a block comment and what follows its end. Comments nest; `depth` counts the
inner ones that are open. -/
def splitBlock? (depth : Nat) : List Char → Option (List Char × List Char)
  | [] => none
  | [_] => none
  | '/' :: '*' :: rest =>
    (splitBlock? (depth + 1) rest).map fun (body, after) => ('/' :: '*' :: body, after)
  | '*' :: '/' :: rest =>
    match depth with
    | 0 => some ([], rest)
    | outer + 1 => (splitBlock? outer rest).map fun (body, after) => ('*' :: '/' :: body, after)
  | c :: d :: rest =>
    (splitBlock? depth (d :: rest)).map fun (body, after) => (c :: body, after)

/-- Is every carriage return followed by a line feed? -/
def pairsCarriages : List Char → Bool
  | [] => true
  | c :: rest => (c ≠ '\r' || rest.head? = some '\n') && pairsCarriages rest

/-- A documentation comment with this body. -/
def docComment? (inner : Bool) (body rest : List Char) : Option (Lexeme × List Char) :=
  if pairsCarriages body then some (.doc inner (String.ofList body), rest) else none

/-- A comment from behind `//`: three slashes or `//!` document, any other is blank. -/
def lineComment? (cs : List Char) : Option (Lexeme × List Char) :=
  match cs with
  | '!' :: text =>
    let (body, rest) := splitLine text
    docComment? true body rest
  | '/' :: '/' :: _ => some (.blank, (splitLine cs).2)
  | '/' :: text =>
    let (body, rest) := splitLine text
    docComment? false body rest
  | _ => some (.blank, (splitLine cs).2)

/-- A comment from behind `/*`: two stars or `/*!` document, any other is blank. -/
def blockComment? (cs : List Char) : Option (Lexeme × List Char) :=
  match cs with
  | '*' :: '/' :: rest => some (.blank, rest)
  | '!' :: text =>
    match splitBlock? 0 text with
    | some (body, rest) => docComment? true body rest
    | none => none
  | '*' :: '*' :: _ => (splitBlock? 0 cs).map fun (_, rest) => (.blank, rest)
  | '*' :: text =>
    match splitBlock? 0 text with
    | some (body, rest) => docComment? false body rest
    | none => none
  | _ => (splitBlock? 0 cs).map fun (_, rest) => (.blank, rest)

/-! ### Punctuation -/

/-- The punctuation characters. -/
def isPunct (c : Char) : Bool :=
  ['~', '!', '@', '#', '$', '%', '^', '&', '*', '-', '=', '+', '|', ';', ':', ',', '<', '.', '>',
    '/', '?', '\''].contains c

/-- Does punctuation stand at the front? The beginning of a comment is none. -/
def startsWithPunct : List Char → Bool
  | [] => false
  | c :: rest => isPunct c && !(c = '/' && (rest.head? = some '/' || rest.head? = some '*'))

/-! ### Identifiers -/

/-- Does the text begin like a literal that no identifier may be mistaken for? -/
def startsLikeLiteral (cs : List Char) : Bool :=
  [['r', '"'], ['r', '#', '"'], ['r', '#', '#'], ['b', '"'], ['b', '\''], ['b', 'r', '"'],
    ['b', 'r', '#'], ['c', '"'], ['c', 'r', '"'], ['c', 'r', '#']].any (·.isPrefixOf cs)

/-- A quote that begins a lifetime: an identifier follows, and neither a closing quote after it
nor a `#` that would make it a reserved spelling. -/
def startsLifetime (cs : List Char) : Bool :=
  match splitName? cs with
  | some (_, '\'' :: _) => false
  | some (_, '#' :: _) => ['r', '#'].isPrefixOf cs
  | some _ => true
  | none => false

/-! ### One lexeme -/

/-- The punctuation character `c` before `rest`. -/
def punctuation? (c : Char) (rest : List Char) : Option (Lexeme × List Char) :=
  if !startsWithPunct (c :: rest) then none
  else if c = '\'' then if startsLifetime rest then some (.punct c .joint, rest) else none
  else some (.punct c (if startsWithPunct rest then .joint else .alone), rest)

/-- The literal, punctuation or identifier at the front. -/
def leaf? (cs : List Char) : Option (Lexeme × List Char) :=
  match Literal.read? cs with
  | some (_, rest) => some (.literal (String.ofList (cs.take (cs.length - rest.length))), rest)
  | none =>
    match cs with
    | [] => none
    | c :: rest =>
      (punctuation? c rest).or <|
        if startsLikeLiteral cs then none
        else (splitName? cs).map fun (name, after) => (.ident name, after)

/-- The lexeme at the front of a source, and what follows it. -/
def next? (cs : List Char) : Option (Lexeme × List Char) :=
  match cs with
  | [] => none
  | '/' :: '/' :: rest => lineComment? rest
  | '/' :: '*' :: rest => blockComment? rest
  | '(' :: rest => some (.opening .paren, rest)
  | '[' :: rest => some (.opening .bracket, rest)
  | '{' :: rest => some (.opening .brace, rest)
  | ')' :: rest => some (.closing .paren, rest)
  | ']' :: rest => some (.closing .bracket, rest)
  | '}' :: rest => some (.closing .brace, rest)
  | c :: rest => if isBlank c then some (.blank, rest) else leaf? cs

/-- Cut a source into lexemes with their places. The bound counts lexemes, of which there are at
most as many as characters. -/
def scanFrom? : Nat → Position → List Char → Option (List (Lexeme × Span))
  | _, _, [] => some []
  | 0, _, _ :: _ => none
  | bound + 1, here, cs =>
    match next? cs with
    | none => none
    | some (lexeme, rest) =>
      let there := (cs.take (cs.length - rest.length)).foldl Position.advance here
      (scanFrom? bound there rest).map ((lexeme, ⟨here, there⟩) :: ·)

/-- Cut a source into lexemes. A byte order mark at its beginning is passed over. -/
def scan? (cs : List Char) : Option (List (Lexeme × Span)) :=
  match cs with
  | '\uFEFF' :: rest => scanFrom? rest.length (Position.start.advance '\uFEFF') rest
  | _ => scanFrom? cs.length Position.start cs

end Lexeme

/-! ### Assembling trees -/

namespace TokenTree

/-- A documentation comment stands for an attribute that holds its text. -/
def docAttribute (span : Span) (inner : Bool) (body : String) : List (TokenTree Span) :=
  [.punct span '#' .alone] ++ (if inner then [.punct span '!' .alone] else []) ++
    [.group span .bracket
      [.ident span "doc", .punct span '=' .alone, .literal span (quoted body)]]

/-- An open group: its delimiter, where it begins, and the trees before it in reverse order. -/
structure Frame where
  delimiter : Delimiter
  start : Position
  before : List (TokenTree Span)

/-- Assemble lexemes into trees. `done` holds the trees of the current group in reverse order. -/
def assemble? : List Frame → List (TokenTree Span) → List (Lexeme × Span) →
    Option (List (TokenTree Span))
  | [], done, [] => some done.reverse
  | _ :: _, _, [] => none
  | frames, done, (lexeme, span) :: rest =>
    match lexeme with
    | .ident name => assemble? frames (.ident span name :: done) rest
    | .punct char spacing => assemble? frames (.punct span char spacing :: done) rest
    | .literal text => assemble? frames (.literal span text :: done) rest
    | .doc inner body => assemble? frames ((docAttribute span inner body).reverse ++ done) rest
    | .blank => assemble? frames done rest
    | .opening delimiter => assemble? (⟨delimiter, span.start, done⟩ :: frames) [] rest
    | .closing delimiter =>
      match frames with
      | [] => none
      | frame :: outer =>
        if frame.delimiter = delimiter then
          assemble? outer
            (.group ⟨frame.start, span.stop⟩ delimiter done.reverse :: frame.before) rest
        else none

/-- The token trees of a source. -/
def lex? (source : String) : Option (List (TokenTree Span)) :=
  (Lexeme.scan? source.toList).bind (assemble? [] [])

end TokenTree

end FallbackEnum
