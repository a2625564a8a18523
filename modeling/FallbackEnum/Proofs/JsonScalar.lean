import FallbackEnum.Decode.Scalar
import FallbackEnum.Proofs.JsonInteger
import FallbackEnum.Proofs.JsonText

/-!
# Raw values in JSON

A raw value is spelled by a JSON text or by an integer of 64 bits. Behind blank space, the reader
finds exactly these, whether it reads only a scalar or any value as a whole.
-/

namespace FallbackEnum

namespace Json

/-! ### Grammar -/

/-- Nothing but blank space. -/
def IsBlank (cs : List Char) : Prop := ∀ c ∈ cs, c = ' ' ∨ c = '\n' ∨ c = '\t' ∨ c = '\r'

/-- The spellings of a raw value. -/
inductive SpellsRaw : List Char → RawValue → Prop
  | text {body : List Char} {value : String} (hchars : SpellsChars body value.toList) :
    SpellsRaw ('"' :: body ++ ['"']) (.text value)
  | integer {spelling : List Char} {n : Int} (hinteger : SpellsInteger spelling n)
    (hmin : Int64.minValue.toInt ≤ n) (hmax : n ≤ Int64.maxValue.toInt) :
    SpellsRaw spelling (.integer (Int64.ofInt n))

/-- A raw value with blank space in front and something behind it that does not continue it. -/
structure BeginsWith (cs : List Char) (value : RawValue) (rest : List Char) : Prop where
  split : ∃ blank spelling, cs = blank ++ spelling ++ rest ∧ IsBlank blank ∧
    SpellsRaw spelling value
  ends : value.kind = .integer → EndsInteger rest

/-- All of a text is a raw value between blank space. -/
def IsRaw (cs : List Char) (value : RawValue) : Prop :=
  ∃ before spelling after, cs = before ++ spelling ++ after ∧ IsBlank before ∧ IsBlank after ∧
    SpellsRaw spelling value

/-! ### Blank space -/

lemma isBlank_iff {cs : List Char} : IsBlank cs ↔ ∀ c ∈ cs, isBlank c = true := by
  simp [IsBlank, isBlank, or_assoc]

/-- Blank space continues nothing. -/
lemma IsBlank.endsInteger {rest : List Char} (h : IsBlank rest) : EndsInteger rest := by
  constructor
  · intro c hc
    obtain rfl | rfl | rfl | rfl := h c (List.mem_of_mem_head? hc) <;> decide
  · intro c hc
    obtain rfl | rfl | rfl | rfl := h c (List.mem_of_mem_head? hc) <;> decide

lemma atEnd_eq_ok_iff {cs : List Char} : atEnd cs = .ok () ↔ IsBlank cs := by
  rw [isBlank_iff, ← List.dropWhile_eq_nil_iff, ← List.isEmpty_iff, atEnd, skipBlank]
  split_ifs with h <;> simp [h]

lemma skipBlank_append {blank cs : List Char} (hblank : IsBlank blank)
    (hhead : ∀ c ∈ cs.head?, isBlank c = false) : skipBlank (blank ++ cs) = cs :=
  (span_append (isBlank_iff.mp hblank) hhead).2

lemma exists_isBlank_append (cs : List Char) :
    ∃ blank, cs = blank ++ skipBlank cs ∧ IsBlank blank :=
  ⟨cs.takeWhile isBlank, List.takeWhile_append_dropWhile.symm,
    isBlank_iff.mpr (List.all_eq_true.mp List.all_takeWhile)⟩

/-! ### Beginnings of values -/

variable {cs rest : List Char}

lemma readHead_eq_text_iff {value : String} :
    readHead cs = .ok (.text value, rest) ↔
      ∃ tail, skipBlank cs = '"' :: tail ∧ readText tail = .ok (value, rest) := by
  rw [readHead]
  cases hskip : skipBlank cs with
  | nil => simp
  | cons c tail =>
    dsimp only
    split_ifs <;> simp_all [bind_eq_ok_iff]

lemma readHead_eq_number_iff {value : JsonNumber} :
    readHead cs = .ok (.number value, rest) ↔
      ∃ c tail, skipBlank cs = c :: tail ∧ startsNumber c = true ∧
        readNumber (c :: tail) = .ok (value, rest) := by
  have hwords : startsNumber 'n' = false ∧ startsNumber 't' = false ∧ startsNumber 'f' = false ∧
      startsNumber '"' = false := by decide
  rw [readHead]
  cases hskip : skipBlank cs with
  | nil => simp
  | cons c tail =>
    dsimp only
    split_ifs <;> simp_all [bind_eq_ok_iff]

/-- Read a raw value of a kind. -/
def readRaw (kind : RawKind) (cs : List Char) : Except DecodeError (RawValue × List Char) := do
  let (head, rest) ← readHead cs
  let value ← (head.found.rawValue? kind).mapError .mismatch
  .ok (value, rest)

/-- Only a text is accepted as a text. -/
lemma Head.rawValue?_text_eq_ok_iff {head : Head} {value : RawValue} :
    head.found.rawValue? .text = .ok value ↔ ∃ s, head = .text s ∧ value = .text s := by
  cases head with
  | text s => simp [Head.found, Found.rawValue?, Found.text?, Except.map, eq_comm]
  | number x =>
    cases x <;> simp [Head.found, JsonNumber.found, Found.rawValue?, Found.text?, Except.map]
  | _ => simp [Head.found, Found.rawValue?, Found.text?, Except.map]

/-- Only an integer of 64 bits is accepted as an integer. -/
lemma Head.rawValue?_integer_eq_ok_iff {head : Head} {value : RawValue} :
    head.found.rawValue? .integer = .ok value ↔
      ∃ n, head = .number (.integer n) ∧ Int64.minValue.toInt ≤ n ∧ n ≤ Int64.maxValue.toInt ∧
        value = .integer (Int64.ofInt n) := by
  cases head with
  | number x =>
    cases x with
    | integer n =>
      by_cases hrange : Int64.minValue.toInt ≤ n ∧ n ≤ Int64.maxValue.toInt
      · have hfits : RawValue.int64? n = some (Int64.ofInt n) := if_pos hrange
        simp only [Head.found, JsonNumber.found, Found.rawValue?, Found.integer?, hfits,
          Except.map, Except.ok.injEq]
        constructor
        · rintro rfl
          exact ⟨n, rfl, hrange.1, hrange.2, rfl⟩
        · rintro ⟨_, ⟨⟩, -, -, rfl⟩
          rfl
      · have hfits : RawValue.int64? n = none := if_neg hrange
        refine iff_of_false ?_ ?_
        · simp [Head.found, JsonNumber.found, Found.rawValue?, Found.integer?, hfits, Except.map]
        · rintro ⟨_, ⟨⟩, hmin, hmax, -⟩
          exact hrange ⟨hmin, hmax⟩
    | float x => simp [Head.found, JsonNumber.found, Found.rawValue?, Found.integer?, Except.map]
  | _ => simp [Head.found, Found.rawValue?, Found.integer?, Except.map]

lemma Head.kind_of_rawValue? {head : Head} {kind : RawKind} {value : RawValue}
    (h : head.found.rawValue? kind = .ok value) : value.kind = kind := by
  cases kind with
  | text =>
    obtain ⟨s, -, rfl⟩ := rawValue?_text_eq_ok_iff.mp h
    rfl
  | integer =>
    obtain ⟨n, -, -, -, rfl⟩ := rawValue?_integer_eq_ok_iff.mp h
    rfl

lemma readRaw_eq_ok_iff_readHead {kind : RawKind} {value : RawValue} :
    readRaw kind cs = .ok (value, rest) ↔
      ∃ head, readHead cs = .ok (head, rest) ∧ head.found.rawValue? kind = .ok value := by
  rw [readRaw, bind_eq_ok_iff]
  constructor
  · rintro ⟨⟨head, after⟩, hhead, h⟩
    obtain ⟨_, hvalue, ⟨⟩⟩ := bind_eq_ok_iff.mp h
    refine ⟨head, hhead, ?_⟩
    cases hfound : head.found.rawValue? kind with
    | ok found => simpa [hfound, Except.mapError] using hvalue
    | error cause => simp [hfound, Except.mapError] at hvalue
  · rintro ⟨head, hhead, hvalue⟩
    refine ⟨(head, rest), hhead, ?_⟩
    simp [hvalue, Except.mapError, bind, Except.bind]

/-- An integer begins with a minus sign or a digit, neither of which is blank. -/
lemma SpellsInteger.startsNumber {spelling : List Char} {n : Int}
    (h : SpellsInteger spelling n) :
    ∃ c tail, spelling = c :: tail ∧ startsNumber c = true ∧ isBlank c = false := by
  cases h with
  | negative _ _ => exact ⟨'-', _, rfl, by decide, by decide⟩
  | nonnegative hwhole =>
    obtain ⟨c, tail, rfl⟩ := List.exists_cons_of_ne_nil hwhole.nonempty
    have hdigit := hwhole.isDigit c (by simp)
    refine ⟨c, tail, rfl, by simp [Json.startsNumber, hdigit], ?_⟩
    by_contra hblank
    have hends : EndsInteger [c] := IsBlank.endsInteger (isBlank_iff.mpr (by simpa using hblank))
    simp [hends.noDigit c rfl] at hdigit

/-- The reader accepts exactly the raw values of a kind that a text begins with. -/
theorem readRaw_eq_ok_iff {kind : RawKind} {value : RawValue} :
    readRaw kind cs = .ok (value, rest) ↔ value.kind = kind ∧ BeginsWith cs value rest := by
  rw [readRaw_eq_ok_iff_readHead]
  constructor
  · rintro ⟨head, hhead, hvalue⟩
    obtain ⟨before, hcs, hblank⟩ := exists_isBlank_append cs
    cases kind with
    | text =>
      obtain ⟨s, rfl, rfl⟩ := Head.rawValue?_text_eq_ok_iff.mp hvalue
      obtain ⟨tail, hskip, hread⟩ := readHead_eq_text_iff.mp hhead
      obtain ⟨body, rfl, hchars⟩ := readText_eq_ok_iff.mp hread
      refine ⟨rfl, ⟨before, _, ?_, hblank, .text hchars⟩, fun h => by cases h⟩
      rw [hcs, hskip]
      simp
    | integer =>
      obtain ⟨n, rfl, hmin, hmax, rfl⟩ := Head.rawValue?_integer_eq_ok_iff.mp hvalue
      obtain ⟨c, tail, hskip, -, hread⟩ := readHead_eq_number_iff.mp hhead
      obtain ⟨spelling, hspelling, hinteger, hends, -⟩ := readNumber_eq_integer_iff.mp hread
      refine ⟨rfl, ⟨before, spelling, ?_, hblank, .integer hinteger hmin hmax⟩, fun _ => hends⟩
      rw [hcs, hskip, hspelling, List.append_assoc]
  · rintro ⟨rfl, ⟨blank, spelling, rfl, hblank, hspelling⟩, hends⟩
    rw [List.append_assoc]
    cases hspelling with
    | @text body s hchars =>
      refine ⟨.text s, readHead_eq_text_iff.mpr ⟨body ++ '"' :: rest, ?_, ?_⟩, rfl⟩
      · rw [skipBlank_append hblank]
        · simp
        · rintro c ⟨⟩
          decide
      · exact readText_eq_ok_iff.mpr ⟨body, rfl, hchars⟩
    | @integer _ n hinteger hmin hmax =>
      obtain ⟨c, tail, rfl, hstarts, hnotBlank⟩ := hinteger.startsNumber
      refine ⟨.number (.integer n),
        readHead_eq_number_iff.mpr ⟨c, tail ++ rest, ?_, hstarts, ?_⟩,
        Head.rawValue?_integer_eq_ok_iff.mpr ⟨n, rfl, hmin, hmax, rfl⟩⟩
      · refine skipBlank_append hblank ?_
        rintro _ ⟨⟩
        exact hnotBlank
      · refine readNumber_eq_integer_iff.mpr ⟨c :: tail, rfl, hinteger, hends rfl, hmin, ?_⟩
        have hsize : maxUnsigned = 18446744073709551615 := rfl
        rw [Int64.toInt_maxValue] at hmax
        omega

/-- All of a text is a raw value of a kind exactly if only blank space is left behind one. -/
lemma isRaw_iff_readRaw {kind : RawKind} {value : RawValue} :
    value.kind = kind ∧ IsRaw cs value ↔
      ∃ rest, readRaw kind cs = .ok (value, rest) ∧ IsBlank rest := by
  simp only [readRaw_eq_ok_iff]
  constructor
  · rintro ⟨hkind, before, spelling, after, hcs, hbefore, hafter, hspelling⟩
    exact ⟨after,
      ⟨hkind, ⟨before, spelling, hcs, hbefore, hspelling⟩, fun _ => hafter.endsInteger⟩, hafter⟩
  · rintro ⟨after, ⟨hkind, ⟨before, spelling, hcs, hbefore, hspelling⟩, -⟩, hafter⟩
    exact ⟨hkind, before, spelling, after, hcs, hbefore, hafter, hspelling⟩

/-! ### Whole values -/

/-- A beginning that is all of its value. -/
def Head.IsScalar : Head → Prop
  | .array => False
  | .object => False
  | _ => True

lemma Head.isScalar_of_rawValue? {head : Head} {kind : RawKind} {value : RawValue}
    (h : head.found.rawValue? kind = .ok value) : head.IsScalar := by
  cases kind with
  | text =>
    obtain ⟨s, rfl, -⟩ := rawValue?_text_eq_ok_iff.mp h
    trivial
  | integer =>
    obtain ⟨n, rfl, -⟩ := rawValue?_integer_eq_ok_iff.mp h
    trivial

/-- A value that is read as a whole and begins with a scalar is that scalar. -/
lemma readHead_of_readValue {depth : Nat} {value : Json}
    (h : readValue depth cs = .ok (value, rest)) (hscalar : value.head.IsScalar) :
    readHead cs = .ok (value.head, rest) := by
  cases depth with
  | zero => simp [readValue] at h
  | succ depth =>
    rw [readValue, bind_eq_ok_iff] at h
    obtain ⟨⟨head, after⟩, hhead, hvalue⟩ := h
    rw [hhead]
    -- Behind a bracket the reader goes on, and what it gives is no scalar.
    cases head with
    | array =>
      dsimp only at hvalue
      split_ifs at hvalue
      obtain ⟨⟨items, _⟩, -, ⟨⟩⟩ := bind_eq_ok_iff.mp hvalue
      exact hscalar.elim
    | object =>
      dsimp only at hvalue
      split_ifs at hvalue
      obtain ⟨⟨fields, _⟩, -, ⟨⟩⟩ := bind_eq_ok_iff.mp hvalue
      exact hscalar.elim
    | _ =>
      cases hvalue
      rfl

lemma readValue_of_readHead {depth : Nat} {head : Head} (h : readHead cs = .ok (head, rest))
    (hscalar : head.IsScalar) :
    ∃ value, readValue (depth + 1) cs = .ok (value, rest) ∧ value.head = head := by
  cases head with
  | array => exact hscalar.elim
  | object => exact hscalar.elim
  | null => exact ⟨.null, by simp [readValue, h, bind, Except.bind], rfl⟩
  | bool b => exact ⟨.bool b, by simp [readValue, h, bind, Except.bind], rfl⟩
  | number x => exact ⟨.number x, by simp [readValue, h, bind, Except.bind], rfl⟩
  | text s => exact ⟨.text s, by simp [readValue, h, bind, Except.bind], rfl⟩

/-- A text that is read as a whole is a raw value exactly if it is one with nothing but blank
space behind it. -/
theorem parseChars_raw_iff {kind : RawKind} {value : RawValue} :
    (∃ tree, parseChars cs = .ok tree ∧ tree.head.found.rawValue? kind = .ok value) ↔
      ∃ rest, readRaw kind cs = .ok (value, rest) ∧ IsBlank rest := by
  simp only [readRaw_eq_ok_iff_readHead]
  constructor
  · rintro ⟨tree, htree, hvalue⟩
    obtain ⟨⟨_, rest⟩, hread, h⟩ := bind_eq_ok_iff.mp htree
    obtain ⟨_, hend, ⟨⟩⟩ := bind_eq_ok_iff.mp h
    have hhead := readHead_of_readValue hread (Head.isScalar_of_rawValue? hvalue)
    exact ⟨rest, ⟨tree.head, hhead, hvalue⟩, atEnd_eq_ok_iff.mp hend⟩
  · rintro ⟨rest, ⟨head, hhead, hvalue⟩, hblank⟩
    obtain ⟨tree, hread, rfl⟩ := readValue_of_readHead hhead (Head.isScalar_of_rawValue? hvalue)
    refine ⟨tree, bind_eq_ok_iff.mpr ⟨(tree, rest), hread, ?_⟩, hvalue⟩
    exact bind_eq_ok_iff.mpr ⟨(), atEnd_eq_ok_iff.mpr hblank, rfl⟩

end Json

end FallbackEnum
