import FallbackEnum.Decode.Document
import FallbackEnum.Proofs.CompiledEnum
import FallbackEnum.Proofs.JsonScalar

/-!
# Decoding a single value

A text that spells a raw value of the right kind is decoded to the variant that has it, or else
to the fallback with a line in the log. Every other text is an error and never the fallback. A
tree is read to its end before it is decoded, so its errors log nothing. A value that is taken as
it comes is looked up before the end of the text is seen: it may be logged and then followed by
an error.
-/

namespace FallbackEnum

/-! ### Steps of decoders -/

namespace Decoder

variable {β γ : Type} {cs : List Char} {noted : List RawValue}

lemma bind_apply (d : Decoder β) (f : β → Decoder γ) :
    (d >>= f) cs noted =
      match d cs noted with
      | (.ok (value, rest), noted) => f value rest noted
      | (.error cause, noted) => (.error cause, noted) := by
  simp only [bind, StateT.bind, ExceptT.bind, ExceptT.mk, ExceptT.bindCont]
  cases d cs noted with
  | mk result noted => cases result <;> rfl

lemma ofReader_apply (read : List Char → Except DecodeError (β × List Char)) :
    ofReader read cs noted = (read cs, noted) := rfl

lemma ofMismatch_apply (result : Except Mismatch β) :
    ofMismatch result cs noted =
      match result with
      | .ok value => (.ok (value, cs), noted)
      | .error cause => (.error (.mismatch cause), noted) := by
  cases result <;> rfl

/-- Reading a raw value notes nothing. -/
lemma rawValue_apply (kind : RawKind) :
    rawValue kind cs noted = (Json.readRaw kind cs, noted) := by
  rw [rawValue, bind_apply, found, ofReader_apply, Json.readRaw]
  cases Json.readHead cs with
  | error cause => rfl
  | ok read =>
    simp only [bind, Except.bind, ofMismatch_apply]
    cases read.1.found.rawValue? kind <;> rfl

lemma settle_apply (e : RawEnum) (value : RawValue) :
    settle e value cs noted =
      (.ok ((e.settle value e.safeCase).1, cs), noted ++ (e.settle value e.safeCase).2) := rfl

lemma tree_apply (e : RawEnum) :
    tree e cs noted =
      match Json.parseChars cs with
      | .ok value =>
        match value.head.found.rawValue? e.kind with
        | .ok raw => settle e raw [] noted
        | .error cause => (.error (.mismatch cause), noted)
      | .error cause => (.error cause, noted) := by
  simp only [tree, bind_apply, ofReader_apply, ofMismatch_apply]
  cases Json.parseChars cs with
  | error cause => rfl
  | ok value =>
    simp only [bind, Except.bind]
    cases value.head.found.rawValue? e.kind <;> rfl

lemma whole_apply (d : Decoder β) :
    d.whole cs noted =
      match d cs noted with
      | (.ok (value, rest), noted) => ((Json.atEnd rest).map fun _ => (value, rest), noted)
      | (.error cause, noted) => (.error cause, noted) := by
  rw [whole, bind_apply]
  cases d cs noted with
  | mk result noted =>
    cases result with
    | error cause => rfl
    | ok read =>
      obtain ⟨value, rest⟩ := read
      dsimp only
      rw [bind_apply, ofSkipper, ofReader_apply]
      cases Json.atEnd rest <;> rfl

end Decoder

/-! ### Shapes -/

/-- How a single value is decoded: as it comes, or by way of a tree. -/
inductive Shape where
  | one
  | tree
deriving DecidableEq, Repr

/-- The decoder of a shape. -/
def Shape.decoder (e : RawEnum) : Shape → Decoder String
  | one => Decoder.variant e
  | tree => Decoder.tree e

namespace RawEnum

/-- Decode a whole text: the variant, or why there is none, and the lines of the log. -/
def run (e : RawEnum) (shape : Shape) (text : String) :
    Except DecodeError String × List String :=
  let (result, noted) := (shape.decoder e).whole.decode text
  (result.map Prod.fst, noted.map e.logLine)

/-- The kind of scalar that an enum decodes and its fallback are those in the code of its
routine. -/
theorem read?_routine (e : RawEnum) :
    DecodeRoutine.read? e.routine.tokens = some ⟨e.kind, e.safeCase⟩ :=
  DecodeRoutine.read?_tokens e.routine

/-- The variant and the log for a raw value: the variant that has it and no line, or else the
fallback and one line. -/
inductive Answers (e : RawEnum) (value : RawValue) : String → List String → Prop
  | recognized {variant : String} (hmem : variant ∈ e.variants)
    (hvalue : e.rawValue? variant = some value) : Answers e value variant []
  | unrecognized (hnone : ∀ variant ∈ e.variants, e.rawValue? variant ≠ some value) :
    Answers e value e.safeCase [e.logLine value]

variable {e : RawEnum}

/-- The lookup of a compiled enum gives the one answer there is for a raw value of its kind. -/
lemma IsCompiled.answers_iff (h : e.IsCompiled) {value : RawValue} (hkind : value.kind = e.kind)
    {variant : String} {log : List String} :
    e.Answers value variant log ↔
      (e.settle value e.safeCase).1 = variant ∧
        (e.settle value e.safeCase).2.map e.logLine = log := by
  -- The lookup is exact, so it decides which of the two answers there can be.
  cases hfound : e.fromRaw? value with
  | some found =>
    obtain ⟨hmem, hvalue⟩ := (h.fromRaw?_eq_some_iff hkind).mp hfound
    simp only [settle, hfound, List.map_nil]
    constructor
    · intro hanswers
      cases hanswers with
      | recognized hmem' hvalue' =>
        have hsame := (h.fromRaw?_eq_some_iff hkind).mpr ⟨hmem', hvalue'⟩
        rw [hfound] at hsame
        exact ⟨Option.some.inj hsame, rfl⟩
      | unrecognized hnone => exact absurd hvalue (hnone found hmem)
    · rintro ⟨rfl, rfl⟩
      exact .recognized hmem hvalue
  | none =>
    have hnone := (h.fromRaw?_eq_none_iff hkind).mp hfound
    simp only [settle, hfound, List.map_cons, List.map_nil]
    constructor
    · intro hanswers
      cases hanswers with
      | recognized hmem hvalue => exact absurd hvalue (hnone variant hmem)
      | unrecognized _ => exact ⟨rfl, rfl⟩
    · rintro ⟨rfl, rfl⟩
      exact .unrecognized hnone

/-- A value that is taken as it comes is looked up before the end of the text is seen. -/
lemma run_one (e : RawEnum) (text : String) :
    e.run .one text =
      match Json.readRaw e.kind text.toList with
      | .ok (value, rest) =>
        ((Json.atEnd rest).map fun _ => (e.settle value e.safeCase).1,
          (e.settle value e.safeCase).2.map e.logLine)
      | .error cause => (.error cause, []) := by
  rw [run, Decoder.decode, Shape.decoder, Decoder.whole_apply, Decoder.variant,
    Decoder.bind_apply, Decoder.rawValue_apply]
  cases Json.readRaw e.kind text.toList with
  | error cause => rfl
  | ok read =>
    obtain ⟨value, rest⟩ := read
    simp only [Decoder.settle_apply, List.nil_append]
    cases Json.atEnd rest <;> rfl

/-- A tree is read to the end of the text before its value is looked up. -/
lemma run_tree (e : RawEnum) (text : String) :
    e.run .tree text =
      match Json.parseChars text.toList with
      | .ok tree =>
        match tree.head.found.rawValue? e.kind with
        | .ok value =>
          (.ok (e.settle value e.safeCase).1, (e.settle value e.safeCase).2.map e.logLine)
        | .error cause => (.error (.mismatch cause), [])
      | .error cause => (.error cause, []) := by
  rw [run, Decoder.decode, Shape.decoder, Decoder.whole_apply, Decoder.tree_apply]
  cases Json.parseChars text.toList with
  | error cause => rfl
  | ok tree => cases hvalue : tree.head.found.rawValue? e.kind <;> simp only [hvalue] <;> rfl

variable {text variant : String} {log : List String}

/-- In both shapes, a raw value between blank space is looked up. -/
lemma run_of_isRaw {value : RawValue} (hraw : Json.IsRaw text.toList value)
    (hkind : value.kind = e.kind) (shape : Shape) :
    e.run shape text =
      (.ok (e.settle value e.safeCase).1, (e.settle value e.safeCase).2.map e.logLine) := by
  obtain ⟨rest, hread, hblank⟩ := Json.isRaw_iff_readRaw.mp ⟨hkind, hraw⟩
  cases shape with
  | one => simp [run_one, hread, Json.atEnd_eq_ok_iff.mpr hblank, Except.map]
  | tree =>
    obtain ⟨tree, htree, hvalue⟩ := Json.parseChars_raw_iff.mpr ⟨rest, hread, hblank⟩
    simp [run_tree, htree, hvalue]

lemma exists_raw_of_run_one (h : e.IsCompiled) (hrun : e.run .one text = (.ok variant, log)) :
    ∃ value, (value.kind = e.kind ∧ Json.IsRaw text.toList value) ∧
      e.Answers value variant log := by
  rw [run_one] at hrun
  cases hread : Json.readRaw e.kind text.toList with
  | error cause => simp [hread] at hrun
  | ok read =>
    obtain ⟨value, rest⟩ := read
    have hkind := (Json.readRaw_eq_ok_iff.mp hread).1
    cases hend : Json.atEnd rest with
    | error cause => simp [hread, hend, Except.map] at hrun
    | ok _ =>
      simp only [hread, hend, Except.map, Prod.mk.injEq, Except.ok.injEq] at hrun
      exact ⟨value, Json.isRaw_iff_readRaw.mpr ⟨rest, hread, Json.atEnd_eq_ok_iff.mp hend⟩,
        (h.answers_iff hkind).mpr hrun⟩

lemma exists_raw_of_run_tree (h : e.IsCompiled) (hrun : e.run .tree text = (.ok variant, log)) :
    ∃ value, (value.kind = e.kind ∧ Json.IsRaw text.toList value) ∧
      e.Answers value variant log := by
  rw [run_tree] at hrun
  cases htree : Json.parseChars text.toList with
  | error cause => simp [htree] at hrun
  | ok tree =>
    cases hvalue : tree.head.found.rawValue? e.kind with
    | error cause => simp [htree, hvalue] at hrun
    | ok value =>
      have hkind := Json.Head.kind_of_rawValue? hvalue
      simp only [htree, hvalue, Prod.mk.injEq, Except.ok.injEq] at hrun
      exact ⟨value,
        Json.isRaw_iff_readRaw.mpr (Json.parseChars_raw_iff.mp ⟨tree, htree, hvalue⟩),
        (h.answers_iff hkind).mpr hrun⟩

lemma log_of_run_tree_eq_error {cause : DecodeError}
    (hrun : e.run .tree text = (.error cause, log)) :
    log = [] := by
  rw [run_tree] at hrun
  split at hrun
  · split at hrun <;> cases hrun
    rfl
  · cases hrun
    rfl

/-- An error of a value that is taken as it comes leaves the log of the raw value that the text
begins with, if there is one, and nothing otherwise. -/
lemma log_of_run_one_eq_error (h : e.IsCompiled) {cause : DecodeError}
    (hrun : e.run .one text = (.error cause, log)) :
    (∀ value rest, value.kind = e.kind → Json.BeginsWith text.toList value rest →
        ∃ variant, e.Answers value variant log) ∧
      ((∀ value rest, value.kind = e.kind → ¬ Json.BeginsWith text.toList value rest) →
        log = []) := by
  rw [run_one] at hrun
  constructor
  · intro value rest hkind hbegins
    simp only [Json.readRaw_eq_ok_iff.mpr ⟨hkind, hbegins⟩, Prod.mk.injEq] at hrun
    exact ⟨_, (h.answers_iff hkind).mpr ⟨rfl, hrun.2⟩⟩
  · intro hnone
    cases hread : Json.readRaw e.kind text.toList with
    | ok read =>
      obtain ⟨hkind, hbegins⟩ := Json.readRaw_eq_ok_iff.mp hread
      exact absurd hbegins (hnone _ _ hkind)
    | error cause =>
      simp only [hread, Prod.mk.injEq] at hrun
      exact hrun.2.symm

lemma run_eq_ok_iff (h : e.IsCompiled) (shape : Shape) :
    e.run shape text = (.ok variant, log) ↔
      ∃ value, (value.kind = e.kind ∧ Json.IsRaw text.toList value) ∧
        e.Answers value variant log := by
  constructor
  · intro hrun
    cases shape with
    | one => exact exists_raw_of_run_one h hrun
    | tree => exact exists_raw_of_run_tree h hrun
  · rintro ⟨value, ⟨hkind, hraw⟩, hanswers⟩
    obtain ⟨rfl, rfl⟩ := (h.answers_iff hkind).mp hanswers
    exact run_of_isRaw hraw hkind shape

/-- What is not a raw value of the kind of an enum is an error, and nothing else is. -/
lemma run_eq_error_iff (h : e.IsCompiled) (shape : Shape) :
    (∃ cause log, e.run shape text = (.error cause, log)) ↔
      ∀ value, value.kind = e.kind → ¬ Json.IsRaw text.toList value := by
  constructor
  · rintro ⟨cause, log, hrun⟩ value hkind hraw
    have hanswers := (h.answers_iff hkind).mpr ⟨rfl, rfl⟩
    have hok := (run_eq_ok_iff h shape).mpr ⟨value, ⟨hkind, hraw⟩, hanswers⟩
    rw [hrun] at hok
    cases hok
  · intro hnone
    cases hrun : e.run shape text with
    | mk result log =>
      cases result with
      | error cause => exact ⟨cause, log, rfl⟩
      | ok variant =>
        obtain ⟨value, ⟨hkind, hraw⟩, -⟩ := (run_eq_ok_iff h shape).mp hrun
        exact absurd hraw (hnone value hkind)

/-- Enums of one kind that give the same answer to a text, if it is a raw value, also agree in
the errors. -/
lemma run_result_congr {other : RawEnum} (hkind : other.kind = e.kind) (shape : Shape)
    (h : ∀ value, value.kind = e.kind → Json.IsRaw text.toList value →
      (other.settle value other.safeCase).1 = (e.settle value e.safeCase).1) :
    (other.run shape text).1 = (e.run shape text).1 := by
  cases shape with
  | one =>
    rw [run_one, run_one, hkind]
    cases hread : Json.readRaw e.kind text.toList with
    | error cause => rfl
    | ok read =>
      cases hend : Json.atEnd read.2 with
      | error cause => simp only [hend, Except.map]
      | ok _ =>
        obtain ⟨hvalue, hraw⟩ :=
          Json.isRaw_iff_readRaw.mpr ⟨read.2, hread, Json.atEnd_eq_ok_iff.mp hend⟩
        simp only [hend, Except.map, h read.1 hvalue hraw]
  | tree =>
    rw [run_tree, run_tree, hkind]
    cases htree : Json.parseChars text.toList with
    | error cause => rfl
    | ok tree =>
      cases hvalue : tree.head.found.rawValue? e.kind with
      | error cause => simp only [hvalue]
      | ok value =>
        obtain ⟨hsame, hraw⟩ :=
          Json.isRaw_iff_readRaw.mpr (Json.parseChars_raw_iff.mp ⟨tree, htree, hvalue⟩)
        simp only [hvalue, h value hsame hraw]

end RawEnum

/-! ### The contract -/

/-- A compiled enum, and so every one of the catalog, decodes a text in either shape exactly if
the text is one raw value of its kind between blank space. Then it gives the variant that has the
value and logs nothing, or it gives the fallback and logs one line. All other texts are errors.
As a tree they log nothing; taken as they come they log what the raw value at their beginning
does, if there is one. -/
theorem decode_contract :
    (∀ modulePath name e, Catalog.find? modulePath name = some e → e.IsCompiled) ∧
    ∀ e : RawEnum, e.IsCompiled → ∀ text : String,
      (∀ shape variant log, e.run shape text = (.ok variant, log) ↔
        ∃ value, (value.kind = e.kind ∧ Json.IsRaw text.toList value) ∧
          e.Answers value variant log) ∧
      (∀ shape, (∃ cause log, e.run shape text = (.error cause, log)) ↔
        ∀ value, value.kind = e.kind → ¬ Json.IsRaw text.toList value) ∧
      (∀ cause log, e.run .tree text = (.error cause, log) → log = []) ∧
      (∀ cause log, e.run .one text = (.error cause, log) →
        (∀ value rest, value.kind = e.kind → Json.BeginsWith text.toList value rest →
            ∃ variant, e.Answers value variant log) ∧
          ((∀ value rest, value.kind = e.kind → ¬ Json.BeginsWith text.toList value rest) →
            log = [])) := by
  refine ⟨fun _ _ _ hfound => Catalog.isCompiled hfound, ?_⟩
  intro e he text
  refine ⟨fun shape _ _ => RawEnum.run_eq_ok_iff he shape, RawEnum.run_eq_error_iff he, ?_, ?_⟩
  · intro cause log
    exact RawEnum.log_of_run_tree_eq_error
  · intro cause log
    exact RawEnum.log_of_run_one_eq_error he

/-- A number that no variant has becomes the fallback in both shapes. -/
theorem httpStatus_unrecognized_falls_back :
    ∃ e, Catalog.find? "catalog" "HttpStatus" = some e ∧ e.IsCompiled ∧
      ∀ shape, e.run shape " 299\n" = (.ok "Unknown", [e.logLine (.integer 299)]) := by
  have hdata : (Catalog.find? "catalog" "HttpStatus").map (fun e =>
      (e.kind, e.safeCase, decide (some (.integer 299) ∈ e.variants.map e.rawValue?))) =
      some (.integer, "Unknown", false) := by
    decide +kernel
  obtain ⟨e, hfound, hdata⟩ := Option.map_eq_some_iff.mp hdata
  simp only [Prod.mk.injEq, decide_eq_false_iff_not] at hdata
  obtain ⟨hkind, hsafeCase, hnone⟩ := hdata
  have he := decode_contract.1 _ _ e hfound
  refine ⟨e, hfound, he, ?_⟩
  intro shape
  have hwhole : Json.IsWhole ['2', '9', '9'] := ⟨by simp, by simp, by simp⟩
  have hinteger : Json.SpellsInteger ['2', '9', '9'] 299 := .nonnegative hwhole
  have hspelling := Json.SpellsRaw.integer hinteger (by decide) (by decide)
  have hraw : Json.IsRaw " 299\n".toList (.integer (Int64.ofInt 299)) :=
    ⟨[' '], ['2', '9', '9'], ['\n'], rfl, by simp [Json.IsBlank],
      by simp [Json.IsBlank], hspelling⟩
  have hanswers : e.Answers (.integer 299) e.safeCase [e.logLine (.integer 299)] := by
    refine .unrecognized ?_
    intro variant hmem hvalue
    exact hnone (List.mem_map.mpr ⟨variant, hmem, hvalue⟩)
  rw [← hsafeCase]
  exact ((decode_contract.2 e he " 299\n").1 shape _ _).mpr
    ⟨.integer 299, ⟨hkind.symm, hraw⟩, hanswers⟩

/-- An error with a line in the log: the text that no variant has is seen before what is behind
it. -/
theorem operationType_trailing_text_logs :
    ∃ e, Catalog.find? "catalog" "OperationType" = some e ∧
      (∃ cause, (e.run .one "\"x\" y").1 = .error cause) ∧
      (e.run .one "\"x\" y").2 = ["DEBUG safe_decode::raw: unrecognized raw value \"x\" for " ++
        "catalog::OperationType, using fallback"] := by
  have hrun : (Catalog.find? "catalog" "OperationType").map (fun e =>
      ((e.run .one "\"x\" y").1.toOption, (e.run .one "\"x\" y").2)) =
      some (none, ["DEBUG safe_decode::raw: unrecognized raw value \"x\" for " ++
        "catalog::OperationType, using fallback"]) := by
    decide +kernel
  obtain ⟨e, he, hresult⟩ := Option.map_eq_some_iff.mp hrun
  rw [Prod.mk.injEq] at hresult
  refine ⟨e, he, ?_, hresult.2⟩
  cases herror : (e.run .one "\"x\" y").1 with
  | error cause => exact ⟨cause, rfl⟩
  | ok variant => simp [herror, Except.toOption] at hresult

end FallbackEnum
