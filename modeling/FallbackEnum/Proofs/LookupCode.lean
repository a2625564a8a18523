import FallbackEnum.Grammar.Reader
import FallbackEnum.Proofs.QuotedText
import FallbackEnum.Routine
import Mathlib.Data.List.Basic

/-!
# The code of a lookup

A lookup is generated as code, with one function that finds the variant of a raw value and one
that gives the raw value of a variant. Here the code is read again, as two tables of arms that
are tried in order. The tables read out of the code of a lookup are those that the lookup was
made from, so the code means what the lookup means.
-/

namespace FallbackEnum

/-! ### Tables -/

/-- A scalar in the code of a lookup: a text literal, or the number of a variant. -/
inductive CodeScalar where
  | text (value : String)
  | numberOf (variant : String)
deriving DecidableEq, Repr

/-- The raw value of a scalar, for a numbering of the variants. -/
def CodeScalar.value (number : String → Int64) : CodeScalar → RawValue
  | text value => .text value
  | numberOf variant => .integer (number variant)

/-- The two functions of a lookup as tables. -/
structure LookupTables where
  /-- What the raw value is compared with, and the result. An arm for all values compares with
  nothing. -/
  finding : List (Option CodeScalar × Option String)
  /-- The variants and their raw values. -/
  giving : List (String × CodeScalar)
deriving DecidableEq, Repr

namespace LookupTables

/-- The result of the first arm that a raw value passes. -/
def fromRaw? (tables : LookupTables) (number : String → Int64) (value : RawValue) :
    Option String :=
  (tables.finding.find? fun arm => arm.1.all fun scalar => scalar.value number = value).bind
    Prod.snd

/-- The raw value in the first arm of a variant. -/
def rawValue? (tables : LookupTables) (number : String → Int64) (variant : String) :
    Option RawValue :=
  (tables.giving.find? fun arm => arm.1 = variant).map fun arm => arm.2.value number

/-- The variants that can be found, in the order of their arms. -/
def foundNames (tables : LookupTables) : List String := tables.finding.filterMap Prod.snd

end LookupTables

/-! ### Reading -/

namespace LookupCode

open Grammar

/-- A reader of generated code. -/
abbrev CodeReader (β : Type) := Reader Unit β

variable {β : Type}

/-- Read exactly this code. -/
def exactly (expected : List Token) : CodeReader Unit := fun code =>
  (code.dropPrefix? expected).map ((), ·)

/-- Read exactly these words. -/
def phrase (text : String) : CodeReader Unit := exactly (Token.words text)

/-- Read all of the code in one go. -/
def whole (read? : List Token → Option β) : CodeReader β := fun code =>
  (read? code).map (·, [])

/-- What a reader makes of all of the code. -/
def readWhole? (p : CodeReader β) (code : List Token) : Option β :=
  match p code with
  | some (value, []) => some value
  | _ => none

/-- What follows a path of these names, each behind `::`. -/
def behindPath? : List String → List Token → Option (List Token)
  | [], code => some code
  | name :: names, .punct _ ':' .joint :: .punct _ ':' .alone :: .ident _ found :: rest =>
    if found = name then behindPath? names rest else none
  | _, _ => none

/-- The variant in `Self::Variant`. -/
def selfVariant? : List Token → Option String
  | [.ident _ "Self", .punct _ ':' .joint, .punct _ ':' .alone, .ident _ variant] => some variant
  | _ => none

/-- The scalar of a kind that a literal or `Self::Variant as i64` denotes. -/
def scalar? : RawKind → List Token → Option CodeScalar
  | .text, [.literal _ spelling] =>
    match Literal.value spelling with
    | .text value => some (.text value)
    | _ => none
  | .integer, [self, colon, colon', variant, .ident _ "as", .ident _ "i64"] =>
    (selfVariant? [self, colon, colon', variant]).map .numberOf
  | _, _ => none

/-- What a text is compared with: a literal, or nothing in the arm `_`. -/
def pattern? : List Token → Option (Option CodeScalar)
  | [.ident _ "_"] => some none
  | code => (scalar? .text code).map some

/-- The variant in `Some(Self::Variant)`, or none in `None`. -/
def result? (code : List Token) : Option (Option String) :=
  match behindPath? ["core", "option", "Option", "Some"] code with
  | some [.group _ .paren inner] => (selfVariant? inner).map some
  | _ =>
    match behindPath? ["core", "option", "Option", "None"] code with
    | some [] => some none
    | _ => none

/-- Is this a comma? -/
def isComma : Token → Bool
  | .punct _ ',' _ => true
  | _ => false

/-- What stands before and behind the first `=>`. -/
def splitArrow? : List Token → Option (List Token × List Token)
  | [] => none
  | .punct _ '=' .joint :: .punct _ '>' .alone :: rest => some ([], rest)
  | t :: rest => (splitArrow? rest).map fun (left, right) => (t :: left, right)

/-- An arm of a match, from a reader for its pattern and one for its result. -/
def arm? {α β : Type} (left? : List Token → Option α) (right? : List Token → Option β)
    (code : List Token) : Option (α × β) := do
  let (left, right) ← splitArrow? code
  return (← left? left, ← right? right)

/-- The arms of a match, each with a comma behind it. -/
def arms? {α β : Type} (left? : List Token → Option α) (right? : List Token → Option β)
    (code : List Token) : Option (List (α × β)) :=
  let pieces := code.splitOnP isComma
  if (pieces.getLastD []).isEmpty then pieces.dropLast.mapM (arm? left? right?) else none

/-- The result in `return …;`. -/
def returned? : List Token → Option (Option String)
  | .ident _ "return" :: rest =>
    match rest.getLast? with
    | some (.punct _ ';' _) => result? rest.dropLast
    | _ => none
  | _ => none

/-- Comparisons that return early, in front of a last result. -/
def checks? : List Token → Option (List (Option CodeScalar × Option String))
  | .ident _ "if" :: .ident _ "raw_value" :: .punct _ '=' .joint :: .punct _ '=' .alone ::
      .group _ .paren compared :: .group _ .brace answer :: rest => do
    let scalar ← scalar? .integer compared
    let result ← returned? answer
    return (some scalar, result) :: (← checks? rest)
  | code => (result? code).map fun result => [(none, result)]

/-- Read the body that finds variants: a match on a text, or a sequence of comparisons. -/
def finding : RawKind → CodeReader (List (Option CodeScalar × Option String))
  | .text => do
    phrase "match raw_value . as_str"
    within .paren (pure ())
    within .brace (whole (arms? pattern? result?))
  | .integer => whole checks?

/-- Read the body that gives raw values: a match on the variant. That of a text is made its
own. -/
def giving : RawKind → CodeReader (List (String × CodeScalar))
  | .text => do
    phrase "let raw_value : & str = match self"
    let arms ← within .brace (whole (arms? selfVariant? (scalar? .text)))
    phrase "; :: std :: borrow :: ToOwned :: to_owned"
    within .paren (phrase "raw_value")
    return arms
  | .integer => do
    phrase "match self"
    within .brace (whole (arms? selfVariant? (scalar? .integer)))

/-- Read the type of a raw value. -/
def scalarType : CodeReader RawKind := fun code =>
  [RawKind.text, .integer].findSome? fun kind => (code.dropPrefix? kind.scalarType).map (kind, ·)

/-- Read the members of a lookup: the type of the raw value and the two functions. -/
def members : CodeReader LookupTables := do
  phrase "type RawValue ="
  let kind ← scalarType
  phrase "; fn from_raw_value"
  within .paren (phrase "raw_value : Self :: RawValue")
  phrase "-> :: core :: option :: Option < Self >"
  let finding ← within .brace (finding kind)
  phrase "fn raw_value"
  within .paren (phrase "& self")
  phrase "-> Self :: RawValue"
  let giving ← within .brace (giving kind)
  return ⟨finding, giving⟩

/-- Read the implementation of a lookup. -/
def implementation : CodeReader LookupTables := do
  phrase "impl :: safe_decode :: RawRepresentable for"
  let _ ← anyName
  within .brace members

/-- What follows the attributes in front. -/
def behindAttributes : List Token → List Token
  | .punct _ '#' _ :: .group _ .bracket _ :: rest => behindAttributes rest
  | code => code

/-- Pass over the attributes in front. -/
def skipAttributes : CodeReader Unit := fun code => some ((), behindAttributes code)

/-- Read the arguments of the lookup in a decode routine: the raw value and the fallback. -/
def fallbackArgument : CodeReader String := do
  phrase "raw_value ,"
  phrase "Self ::"
  let safeCase ← anyName
  exactly (Token.operator ",")
  return safeCase

/-- Read the lookup in a decode routine. -/
def lookedUp : CodeReader String := do
  phrase "< Self as :: safe_decode :: RawRepresentable > :: from_raw_value_or"
  let safeCase ← within .paren fallbackArgument
  exactly (Token.operator ",")
  return safeCase

/-- Read the two statements of a decode routine: a scalar is read from the decoder, and the
lookup finds its variant or else the fallback. -/
def statements : CodeReader DecodeRoutine := do
  phrase "let raw_value = <"
  let kind ← scalarType
  phrase "as :: safe_decode :: __private :: serde :: Deserialize < 'de > >"
  phrase ":: deserialize"
  within .paren (phrase "decoder")
  phrase "? ; :: core :: result :: Result :: Ok"
  let safeCase ← within .paren lookedUp
  return ⟨kind, safeCase⟩

/-- Read a decode routine. -/
def routine : CodeReader DecodeRoutine := do
  skipAttributes
  phrase "pub fn"
  exactly [.word DecodeRoutine.name]
  phrase "< 'de , D >"
  within .paren (phrase "decoder : D")
  phrase "-> :: core :: result :: Result < Self , D :: Error > where D :"
  phrase ":: safe_decode :: __private :: serde :: Deserializer < 'de > ,"
  within .brace statements

end LookupCode

/-- The tables in the code of a lookup. -/
def LookupTables.read? (code : List Token) : Option LookupTables :=
  LookupCode.readWhole? LookupCode.implementation code

/-- The decode routine with this code. -/
def DecodeRoutine.read? (code : List Token) : Option DecodeRoutine :=
  LookupCode.readWhole? LookupCode.routine code

/-- The fallback in the code of a decode routine: the second argument of its lookup. -/
def DecodeRoutine.readFallback? (code : List Token) : Option String :=
  (DecodeRoutine.read? code).map DecodeRoutine.safeCase

/-! ### Running readers -/

namespace LookupCode

open Grammar

section

variable {β γ : Type}

lemma exactly_append (expected rest : List Token) :
    exactly expected (expected ++ rest) = some ((), rest) := by
  rw [exactly, List.dropPrefix?_append_of_beq rest (beq_self_eq_true expected), Option.map_some]

lemma exactly_self (expected : List Token) : exactly expected expected = some ((), []) := by
  simpa using exactly_append expected []

lemma phrase_append (text : String) (rest : List Token) :
    phrase text (Token.words text ++ rest) = some ((), rest) :=
  exactly_append (Token.words text) rest

lemma phrase_words (text : String) : phrase text (Token.words text) = some ((), []) :=
  exactly_self (Token.words text)

lemma anyName_word (name : String) (rest : List Token) :
    anyName ([Token.word name] ++ rest) = some (name, rest) := rfl

lemma scalarType_append (kind : RawKind) (rest : List Token) :
    scalarType (kind.scalarType ++ rest) = some (kind, rest) := by
  have hexact : ((kind.scalarType ++ rest).dropPrefix? kind.scalarType) = some rest :=
    List.dropPrefix?_append_of_beq rest (beq_self_eq_true _)
  cases kind with
  | text => rw [scalarType, List.findSome?_cons, hexact, Option.map_some]
  | integer =>
    have hother : (RawKind.integer.scalarType ++ rest).dropPrefix? RawKind.text.scalarType =
        none := rfl
    rw [scalarType, List.findSome?_cons, hother, Option.map_none, List.findSome?_cons, hexact,
      Option.map_some]

section

variable {p : CodeReader β} {inner : List Token} {value : β}

lemma within_parens (h : p inner = some (value, [])) (rest : List Token) :
    within .paren p (Token.parens inner ++ rest) = some (value, rest) := by
  simp [within, Token.parens, Token.delimited, h]

lemma within_braces (h : p inner = some (value, [])) (rest : List Token) :
    within .brace p (Token.braces inner ++ rest) = some (value, rest) := by
  simp [within, Token.braces, Token.delimited, h]

lemma within_parens_self (h : p inner = some (value, [])) :
    within .paren p (Token.parens inner) = some (value, []) :=
  within_parens h []

lemma within_braces_self (h : p inner = some (value, [])) :
    within .brace p (Token.braces inner) = some (value, []) :=
  within_braces h []

end

lemma whole_of_some {read? : List Token → Option β} {code : List Token} {value : β}
    (h : read? code = some value) : whole read? code = some (value, []) := by
  rw [whole, h, Option.map_some]

lemma readWhole?_of_some {p : CodeReader β} {code : List Token} {value : β}
    (h : p code = some (value, [])) : readWhole? p code = some value := by
  rw [readWhole?, h]

end

/-! ### Reading the generated code -/

variable {α β : Type} {left? : List Token → Option α} {right? : List Token → Option β}

lemma arm?_eq_some {code left right : List Token} {a : α} {b : β}
    (hsplit : splitArrow? code = some (left, right)) (hleft : left? left = some a)
    (hright : right? right = some b) : arm? left? right? code = some (a, b) := by
  simp [arm?, hsplit, hleft, hright]

lemma arms?_append {piece : List Token} (hcomma : piece.any isComma = false)
    (rest : List Token) :
    arms? left? right? (piece ++ Token.operator "," ++ rest) =
      (do let first ← arm? left? right? piece
          let others ← arms? left? right? rest
          return first :: others) := by
  have hsplit : (piece ++ Token.operator "," ++ rest).splitOnP isComma =
      piece :: rest.splitOnP isComma := by
    rw [List.append_assoc]
    exact List.splitOnP_append_cons_of_forall_mem (by simpa using hcomma) _ rfl rest
  obtain ⟨other, others, hothers⟩ :=
    List.exists_cons_of_ne_nil (List.splitOnP_ne_nil isComma rest)
  rw [arms?, arms?, hsplit, hothers]
  simp only [List.getLastD_cons, List.dropLast_cons_cons, List.mapM_cons]
  split
  · rfl
  · cases arm? left? right? piece <;> rfl

/-- Arms that are read one by one are read in a row. -/
lemma arms?_flatMap {γ : Type} (xs : List γ) {piece : γ → List Token} {value : γ → α × β}
    (hcomma : ∀ x, (piece x).any isComma = false)
    (hvalue : ∀ x, arm? left? right? (piece x) = some (value x)) (rest : List Token) :
    arms? left? right? ((xs.flatMap fun x => piece x ++ Token.operator ",") ++ rest) =
      (arms? left? right? rest).map (xs.map value ++ ·) := by
  induction xs with
  | nil => simp
  | cons x xs ih =>
    rw [List.flatMap_cons, List.append_assoc, arms?_append (hcomma x), ih, hvalue x]
    cases arms? left? right? rest <;> rfl

lemma arms?_nil : arms? left? right? [] = some [] := rfl

end LookupCode

namespace RawLookup

open Grammar LookupCode

lemma result?_someSelf (variant : String) :
    result? (someSelf variant) = some (some variant) := rfl

lemma scalar?_textCode (value : String) :
    scalar? .text (textCode value) = some (.text value) := by
  simp [textCode, RawValue.tokens, Token.lit, scalar?, Literal.value_quoted]

/-- A match on texts is read as a table that ends in the arm for all other texts. -/
lemma finding_fromTextBody (arms : List (String × String)) :
    finding .text (fromTextBody arms) =
      some ((arms.map fun arm => (some (.text arm.2), some arm.1)) ++ [(none, none)], []) := by
  have harm : ∀ arm : String × String,
      arm? pattern? result? (textCode arm.2 ++ Token.operator "=>" ++ someSelf arm.1) =
        some (some (.text arm.2), some arm.1) := by
    intro arm
    have hpattern : pattern? (textCode arm.2) = some (some (.text arm.2)) :=
      congrArg (Option.map some) (scalar?_textCode arm.2)
    exact arm?_eq_some rfl hpattern (result?_someSelf arm.1)
  have harms : arms? pattern? result?
      ((arms.flatMap fun arm =>
          (textCode arm.2 ++ Token.operator "=>" ++ someSelf arm.1) ++ Token.operator ",") ++
        (Token.words "_ =>" ++ noneCode ++ Token.operator "," ++ [])) =
      some ((arms.map fun arm => (some (.text arm.2), some arm.1)) ++ [(none, none)]) := by
    rw [arms?_flatMap arms (fun _ => rfl) harm, arms?_append rfl, arms?_nil]
    rfl
  rw [List.append_nil, ← List.append_assoc, ← List.append_assoc] at harms
  rw [finding, fromTextBody, List.append_assoc, bind_of_some (phrase_append _ _),
    bind_of_some (within_parens rfl _)]
  exact within_braces_self (whole_of_some harms)

lemma giving_toTextBody (arms : List (String × String)) :
    giving .text (toTextBody arms) = some (arms.map fun arm => (arm.1, .text arm.2), []) := by
  have harm : ∀ arm : String × String,
      arm? selfVariant? (scalar? .text)
          (selfPath arm.1 ++ Token.operator "=>" ++ textCode arm.2) =
        some (arm.1, .text arm.2) := by
    intro arm
    exact arm?_eq_some rfl rfl (scalar?_textCode arm.2)
  have harms := arms?_flatMap arms (fun _ => rfl) harm []
  rw [arms?_nil, Option.map_some, List.append_nil, List.append_nil] at harms
  rw [giving, toTextBody, List.append_assoc, List.append_assoc, bind_of_some (phrase_append _ _),
    bind_of_some (within_braces (whole_of_some harms) _), bind_of_some (phrase_append _ _),
    bind_of_some (within_parens_self (phrase_words _))]
  rfl

/-- A sequence of comparisons is read as a table that ends in the arm for all other numbers. -/
lemma finding_fromNumberBody (arms : List String) :
    finding .integer (fromNumberBody arms) =
      some ((arms.map fun variant => (some (.numberOf variant), some variant)) ++
        [(none, none)], []) := by
  refine whole_of_some ?_
  induction arms with
  | nil => rfl
  | cons variant arms ih =>
    have hstep : checks? (fromNumberBody (variant :: arms)) =
        (do let others ← checks? (fromNumberBody arms)
            return (some (.numberOf variant), some variant) :: others) := rfl
    rw [hstep, ih]
    rfl

lemma giving_toNumberBody (arms : List String) :
    giving .integer (toNumberBody arms) =
      some (arms.map fun variant => (variant, .numberOf variant), []) := by
  have harm : ∀ variant : String,
      arm? selfVariant? (scalar? .integer)
          (selfPath variant ++ Token.operator "=>" ++ selfPath variant ++ Token.words "as i64") =
        some (variant, .numberOf variant) :=
    fun _ => rfl
  have harms := arms?_flatMap arms (fun _ => rfl) harm []
  rw [arms?_nil, Option.map_some, List.append_nil, List.append_nil] at harms
  rw [giving, toNumberBody, bind_of_some (phrase_append _ _)]
  exact within_braces_self (whole_of_some harms)

/-! ### What the code means -/

/-- The tables of a lookup. -/
def tables : RawLookup → LookupTables
  | text _ arms =>
    { finding := (arms.map fun arm => (some (.text arm.2), some arm.1)) ++ [(none, none)]
      giving := arms.map fun arm => (arm.1, .text arm.2) }
  | integer _ arms =>
    { finding := (arms.map fun variant => (some (.numberOf variant), some variant)) ++
        [(none, none)]
      giving := arms.map fun variant => (variant, .numberOf variant) }

/-- The functions of an implementation are read from their bodies. -/
lemma read?_implementation {kind : RawKind} {fromBody toBody : List Token}
    {tables : LookupTables} (hfinding : finding kind fromBody = some (tables.finding, []))
    (hgiving : giving kind toBody = some (tables.giving, [])) (enumName : String) :
    LookupTables.read? (implementation enumName kind.scalarType fromBody toBody) =
      some tables := by
  refine readWhole?_of_some ?_
  rw [LookupCode.implementation, implementation, List.append_assoc,
    bind_of_some (phrase_append _ _), bind_of_some (anyName_word _ _)]
  refine within_braces_self ?_
  simp only [List.append_assoc]
  rw [members, bind_of_some (phrase_append _ _), bind_of_some (scalarType_append _ _),
    bind_of_some (phrase_append _ _), bind_of_some (within_parens (phrase_words _) _),
    bind_of_some (phrase_append _ _), bind_of_some (within_braces hfinding _),
    bind_of_some (phrase_append _ _), bind_of_some (within_parens (phrase_words _) _),
    bind_of_some (phrase_append _ _), bind_of_some (within_braces_self hgiving)]
  rfl

/-- The tables in the code of a lookup are those of the lookup. -/
theorem read?_tokens (lookup : RawLookup) :
    LookupTables.read? lookup.tokens = some lookup.tables := by
  cases lookup with
  | text enumName arms =>
    exact read?_implementation (finding_fromTextBody arms) (giving_toTextBody arms) enumName
  | integer enumName arms =>
    exact read?_implementation (finding_fromNumberBody arms) (giving_toNumberBody arms) enumName

/-- In a table with an arm for each entry and one for all other values, the first entry with the
value is found. -/
lemma fromRaw?_arms {γ : Type} (entries : List γ) (scalar : γ → CodeScalar)
    (variant : γ → String)
    (giving : List (String × CodeScalar)) (number : String → Int64) (value : RawValue) :
    LookupTables.fromRaw?
        ⟨(entries.map fun x => (some (scalar x), some (variant x))) ++ [(none, none)], giving⟩
        number value =
      (entries.find? fun x => (scalar x).value number = value).map variant := by
  simp only [LookupTables.fromRaw?, List.find?_append, List.find?_map, Function.comp_def,
    Option.all_some]
  cases entries.find? (fun x => decide ((scalar x).value number = value)) <;> rfl

/-- The code finds the variants that the lookup finds. -/
theorem tables_fromRaw? (lookup : RawLookup) (number : String → Int64) (value : RawValue) :
    lookup.tables.fromRaw? number value = lookup.fromRaw? number value := by
  cases lookup with
  | text enumName arms =>
    rw [tables, fromRaw?_arms arms fun arm => .text arm.2]
    cases value <;> simp [fromRaw?, ofText?, CodeScalar.value]
  | integer enumName arms =>
    rw [tables, fromRaw?_arms arms .numberOf fun variant => variant]
    cases value <;> simp [fromRaw?, ofNumber?, CodeScalar.value]

/-- The code gives the raw values that the lookup gives. -/
theorem tables_rawValue? (lookup : RawLookup) (number : String → Int64) (variant : String) :
    lookup.tables.rawValue? number variant = lookup.rawValue? number variant := by
  cases lookup with
  | text enumName arms =>
    simp only [LookupTables.rawValue?, tables, rawValue?, textOf?, List.find?_map,
      Function.comp_def, Option.map_map]
    rfl
  | integer enumName arms =>
    simp only [LookupTables.rawValue?, tables, rawValue?, List.find?_map, Function.comp_def,
      Option.map_map, CodeScalar.value]
    cases hfind : arms.find? fun arm => decide (arm = variant) with
    | none =>
      have hmem : variant ∉ arms := fun h => by simpa using List.find?_eq_none.mp hfind variant h
      simp [hmem]
    | some found =>
      have hfound : found = variant := by simpa using List.find?_some hfind
      have hmem : variant ∈ arms := hfound ▸ List.mem_of_find?_eq_some hfind
      simp [hmem, hfound]

end RawLookup

namespace DecodeRoutine

open Grammar LookupCode

lemma skipAttributes_docLines (first second : String) (rest : List Token) :
    skipAttributes (docLine first ++ (docLine second ++ (Token.words "pub fn" ++ rest))) =
      some ((), Token.words "pub fn" ++ rest) := rfl

lemma lookedUp_selfPath (safeCase : String) :
    lookedUp
        (Token.words "< Self as :: safe_decode :: RawRepresentable > :: from_raw_value_or" ++
          (Token.parens
              (Token.words "raw_value ," ++
                (RawLookup.selfPath safeCase ++ Token.operator ",")) ++
            Token.operator ",")) =
      some (safeCase, []) := by
  have harguments : fallbackArgument
      (Token.words "raw_value ," ++ (RawLookup.selfPath safeCase ++ Token.operator ",")) =
      some (safeCase, []) := by
    rw [fallbackArgument, RawLookup.selfPath, List.append_assoc,
      bind_of_some (phrase_append _ _), bind_of_some (phrase_append _ _),
      bind_of_some (anyName_word _ _), bind_of_some (exactly_self _)]
    rfl
  rw [lookedUp, bind_of_some (phrase_append _ _), bind_of_some (within_parens harguments _),
    bind_of_some (exactly_self _)]
  rfl

/-- The code of a routine is read as the routine: the scalar that it reads and its fallback. -/
theorem read?_tokens (routine : DecodeRoutine) : read? routine.tokens = some routine := by
  refine readWhole?_of_some ?_
  rw [LookupCode.routine, tokens]
  simp only [List.append_assoc]
  rw [bind_of_some (skipAttributes_docLines _ _ _), bind_of_some (phrase_append _ _),
    bind_of_some (exactly_append _ _), bind_of_some (phrase_append _ _),
    bind_of_some (within_parens (phrase_words _) _), bind_of_some (phrase_append _ _),
    bind_of_some (phrase_append _ _)]
  refine within_braces_self ?_
  rw [statements, bind_of_some (phrase_append _ _), bind_of_some (scalarType_append _ _),
    bind_of_some (phrase_append _ _), bind_of_some (phrase_append _ _),
    bind_of_some (within_parens (phrase_words _) _), bind_of_some (phrase_append _ _),
    bind_of_some (within_parens_self (lookedUp_selfPath routine.safeCase))]
  rfl

lemma readFallback?_tokens (routine : DecodeRoutine) :
    readFallback? routine.tokens = some routine.safeCase := by
  rw [readFallback?, read?_tokens, Option.map_some]

end DecodeRoutine

end FallbackEnum
