import FallbackEnum.Decode.Scalar
import FallbackEnum.Json.Reader
import FallbackEnum.RawEnum

/-!
# Decoding documents

Variants are read from JSON, alone or inside lists, maps and records. Input is taken as it comes:
a value of the wrong type is reported when its first token shows it. Only a tree is read as a
whole before it is decoded. Raw values that no variant has become the fallback and are noted;
what was noted stays when decoding fails later.
-/

namespace FallbackEnum

/-- A decoder takes characters from the front of a text and notes raw values. -/
abbrev Decoder := StateT (List Char) (ExceptT DecodeError (StateM (List RawValue)))

namespace Decoder

/-! ### Steps -/

/-- A reader as a decoder. -/
def ofReader {β : Type} (read : List Char → Except DecodeError (β × List Char)) : Decoder β :=
  fun cs => ExceptT.mk (pure (read cs))

/-- A reader that gives only what is left, as a decoder. -/
def ofSkipper (skip : List Char → Except DecodeError (List Char)) : Decoder Unit :=
  ofReader fun cs => (skip cs).map fun rest => ((), rest)

/-- What was accepted, or an error. -/
def ofMismatch {β : Type} (result : Except Mismatch β) : Decoder β :=
  fun cs => ExceptT.mk (pure ((result.mapError .mismatch).map fun value => (value, cs)))

/-- Report a mismatch. -/
def mismatch {β : Type} (cause : Mismatch) : Decoder β := ofMismatch (.error cause)

/-- Note raw values. -/
def note (values : List RawValue) : Decoder Unit :=
  fun cs => ExceptT.mk fun noted => (.ok ((), cs), noted ++ values)

/-- Decode a text: the result and what was noted. -/
def decode {β : Type} (d : Decoder β) (source : String) :
    Except DecodeError (β × List Char) × List RawValue :=
  d source.toList []

/-! ### Scalars -/

/-- Whatever comes next. -/
def found : Decoder Found := ofReader fun cs => do
  let (head, rest) ← Json.readHead cs
  .ok (head.found, rest)

/-- A raw value of a kind. -/
def rawValue (kind : RawKind) : Decoder RawValue := do
  ofMismatch ((← found).rawValue? kind)

/-- An integer. -/
def integer : Decoder Int64 := do
  ofMismatch (← found).integer?

/-- A truth value. -/
def boolean : Decoder Bool := do
  ofMismatch (← found).boolean?

/-! ### Lists and maps -/

/-- The opening bracket of something expected. -/
def opening (bracket : Char) (expected : Expected) : Decoder Unit := do
  match Json.skipBlank (← get) with
  | c :: rest =>
    if c = bracket then set rest else mismatch (.type (← found) expected)
  | [] => throw .truncated

/-- Is there another entry in front of the closing bracket? -/
def hasNext (bracket : Char) (first : Bool) : Decoder Bool := ofReader fun cs => do
  match ← Json.following bracket first cs with
  | .entry rest => .ok (true, rest)
  | .close rest => .ok (false, rest)

/-- The closing bracket. -/
def closing (bracket : Char) : Decoder Unit := ofSkipper fun cs =>
  match Json.skipBlank cs with
  | [] => .error .truncated
  | c :: rest => if c = bracket then .ok rest else .error .malformed

/-- The entries in front of a closing bracket, at most `bound` of them. -/
def entries {β : Type} (bracket : Char) (entry : Decoder β) : Nat → Bool → Decoder (List β)
  | 0, _ => throw .truncated
  | bound + 1, first => do
    if ← hasNext bracket first then
      let value ← entry
      let values ← entries bracket entry bound false
      return value :: values
    else return []

/-- A list between brackets. -/
def bracketed {β : Type} (left right : Char) (expected : Expected) (entry : Decoder β) :
    Decoder (List β) := do
  opening left expected
  let values ← entries right entry ((← get).length + 1) true
  closing right
  return values

/-- An array. -/
def list {β : Type} (item : Decoder β) : Decoder (List β) := bracketed '[' ']' .sequence item

/-- An object, whose entries are kept in order. -/
def map {β γ : Type} (key : Decoder β) (value : Decoder γ) : Decoder (List (β × γ)) :=
  bracketed '{' '}' .map do
    let k ← key
    ofSkipper Json.readColon
    return (k, ← value)

/-- An entry of an array that may be too short. -/
def element {β : Type} (index : Nat) (expected : Expected) (item : Decoder β) : Decoder β := do
  if ← hasNext ']' (index = 0) then item else mismatch (.length index expected)

/-- An array of two. -/
def pair {β : Type} (item : Decoder β) : Decoder (β × β) := do
  opening '[' .pair
  let first ← element 0 .pair item
  let second ← element 1 .pair item
  closing ']'
  return (first, second)

/-- A value, or nothing. -/
def optional {β : Type} (value : Decoder β) : Decoder (Option β) := do
  match Json.skipBlank (← get) with
  | 'n' :: rest =>
    set rest
    ofSkipper (Json.readWord ['u', 'l', 'l'])
    return none
  | _ => return some (← value)

/-! ### Variants -/

/-- The variant of a raw value. If there is none, note the value and take the fallback. -/
def settle (e : RawEnum) (value : RawValue) : Decoder String := do
  let (variant, unrecognized) := e.settle value e.safeCase
  note unrecognized
  return variant

/-- A variant. -/
def variant (e : RawEnum) : Decoder String := do
  settle e (← rawValue e.kind)

/-- A number between quotes, without blank space. -/
def quotedInteger : Decoder Int64 := do
  match ← get with
  | '"' :: c :: rest =>
    if Json.startsNumber c then
      set (c :: rest)
      let value ← integer
      match ← get with
      | '"' :: after =>
        set after
        return value
      | _ => throw .malformed
    else throw .malformed
  | _ => throw .malformed

/-- A text as the key of an object. -/
def textKey : Decoder String := ofReader Json.readKey

/-- A variant as the key of an object. -/
def variantKey (e : RawEnum) : Decoder String := do
  match e.kind with
  | .text => settle e (.text (← textKey))
  | .integer => settle e (.integer (← quotedInteger))

/-! ### Records -/

/-- A record with a field that holds a variant. -/
structure Record where
  id : Int64
  kind : String

/-- The value of a field that must not be there yet. -/
def field {β : Type} (name : String) (present : Option β) (value : Decoder β) : Decoder β := do
  if present.isSome then mismatch (.duplicateField name)
  else
    ofSkipper Json.readColon
    value

/-- The fields of a record, as far as they are known: at most `bound` more of them. -/
def recordFields (e : RawEnum) :
    Nat → Bool → Option Int64 → Option String → Decoder (Option Int64 × Option String)
  | 0, _, _, _ => throw .truncated
  | bound + 1, first, id, kind => do
    if ← hasNext '}' first then
      let name ← textKey
      if name = "id" then
        let value ← field name id integer
        recordFields e bound false (some value) kind
      else if name = "kind" then
        let value ← field name kind (variant e)
        recordFields e bound false id (some value)
      else
        ofSkipper Json.readColon
        ofSkipper Json.skipValue
        recordFields e bound false id kind
    else return (id, kind)

/-- A field that must be there. -/
def required {β : Type} (name : String) (value : Option β) : Decoder β :=
  match value with
  | some value => return value
  | none => mismatch (.missingField name)

/-- A record, by the names of its fields or by their order. -/
def record (e : RawEnum) : Decoder Record := do
  match Json.skipBlank (← get) with
  | '[' :: rest =>
    set rest
    let id ← element 0 .recordFields integer
    let kind ← element 1 .recordFields (variant e)
    closing ']'
    return ⟨id, kind⟩
  | _ =>
    opening '{' .record
    let (id, kind) ← recordFields e ((← get).length + 1) true none none
    let id ← required "id" id
    let kind ← required "kind" kind
    closing '}'
    return ⟨id, kind⟩

/-! ### Whole texts -/

/-- A value with nothing behind it. -/
def whole {β : Type} (value : Decoder β) : Decoder β := do
  let result ← value
  ofSkipper fun cs => (Json.atEnd cs).map fun _ => cs
  return result

/-- A variant by way of a tree: the whole text is read before it is decoded. -/
def tree (e : RawEnum) : Decoder String := do
  let value ← ofReader fun cs => do
    let value ← Json.parseChars cs
    .ok (value, [])
  let raw ← ofMismatch (value.head.found.rawValue? e.kind)
  settle e raw

/-- Does a value that begins like this show its own end? -/
def isDelimited (c : Char) : Bool := c = '[' || c = '"' || c = '{'

/-- May a value that does not show its own end stop here? -/
def mayStop (cs : List Char) : Bool :=
  match cs with
  | [] => true
  | c :: _ => Json.isBlank c || ['"', '[', ']', '{', '}', ',', ':'].contains c

/-- The variants of a text one after the other, at most `bound` of them, to the end or to the
first error. Gives the results and what was noted. -/
def streamFrom (e : RawEnum) :
    Nat → List Char → List (Except DecodeError String) × List RawValue
  | 0, _ => ([], [])
  | bound + 1, cs =>
    match Json.skipBlank cs with
    | [] => ([], [])
    | c :: rest =>
      match variant e (c :: rest) [] with
      | (.error cause, noted) => ([.error cause], noted)
      | (.ok (name, after), noted) =>
        if isDelimited c || mayStop after then
          let (results, more) := streamFrom e bound after
          (.ok name :: results, noted ++ more)
        else ([.error .malformed], noted)

/-- The variants of a text one after the other. -/
def stream (e : RawEnum) (source : String) :
    List (Except DecodeError String) × List RawValue :=
  streamFrom e (source.length + 1) source.toList

end Decoder

end FallbackEnum
