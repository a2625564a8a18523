import FallbackEnum.Expansion
import FallbackEnum.Source

/-!
# Chains of edits

An item is edited step by step: expanded, stripped of its decoding derives, given attributes or a
variant. Each step works on the item as it reads back from its printed form. A step that cannot
be done leaves the item as it is.
-/

namespace FallbackEnum

/-- One edit of an item. -/
inductive Edit where
  | expand (arguments : String)
  | strip
  | attributes (source : String)
  | variant (source : String)
deriving Repr

/-- Why an edit cannot be done. -/
inductive EditError where
  /-- The item does not read back. -/
  | unreadable
  /-- The arguments of an expansion cannot be read. -/
  | arguments (error : ArgumentTextError)
  /-- The edit does not apply to the item, or its source cannot be read. -/
  | inapplicable

/-- What an edit did. -/
inductive EditReport where
  /-- The number of rendered declarations, the name of an added fallback, and the faults. -/
  | expanded (declarations : Nat) (fallback : Option String) (diagnostics : List Diagnostic)
  | stripped
  /-- The new number of attributes. -/
  | attributes (count : Nat)
  /-- The new number of variants. -/
  | variants (count : Nat)

namespace Edit

/-- Edit an item that was just read. -/
def applyTo (edit : Edit) (item : Item) : Except EditError (EditReport × Item) :=
  match edit with
  | expand source =>
    match Arguments.ofText source with
    | .error e => .error (.arguments e)
    | .ok args =>
      let expansion := item.expand args
      .ok (.expanded (item.render expansion).length
          (expansion.fallbackVariant?.map Variant.name) expansion.diagnostics,
        item.expanded args)
  | strip =>
    match item with
    | .enum decl => .ok (.stripped, .enum decl.stripDecoding)
    | .other _ _ => .error .inapplicable
  | attributes source =>
    match item, Attribute.allOfText? source with
    | .enum decl, some attrs =>
      let attrs := attrs ++ decl.attrs
      .ok (.attributes attrs.length, .enum { decl with attrs := attrs })
    | _, _ => .error .inapplicable
  | variant source =>
    match item, Variant.ofText? source with
    | .enum decl, some v =>
      let decl := decl.push v
      .ok (.variants decl.variants.length, .enum decl)
    | _, _ => .error .inapplicable

/-- Read the item back and edit it: the result, and the item after the step. -/
def step (edit : Edit) (item : Item) : Except EditError EditReport × Item :=
  match item.reread? with
  | none => (.error .unreadable, item)
  | some current =>
    match edit.applyTo current with
    | .ok (report, edited) => (.ok report, edited)
    | .error e => (.error e, current)

/-- Edit an item step by step, with the result and the item after each step. An edit of an
unknown kind is `none`. -/
def runAll : Item → List (Option Edit) → List (Except EditError EditReport × Item)
  | _, [] => []
  | item, none :: rest => (.error .inapplicable, item) :: runAll item rest
  | item, some edit :: rest =>
    let (result, edited) := edit.step item
    (result, edited) :: runAll edited rest

end Edit

end FallbackEnum
