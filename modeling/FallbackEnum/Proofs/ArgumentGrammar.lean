import FallbackEnum.Proofs.IntegerLiterals
import FallbackEnum.Proofs.JsonText
import FallbackEnum.Proofs.RawLiterals

/-!
# The grammar of arguments

Arguments are a list of entries `raw_value = V` and `safe_case = I` with commas between them. The
grammar is stated on tokens and does not mention the reader: entries in any order, a comma after
the last one or none, each key at most once. The reader succeeds exactly on such lists, and what
it returns are the values of their entries. An integer is refused exactly if it does not fit 64
bits.
-/

namespace FallbackEnum

namespace Arguments

/-! ### Grammar -/

/-- The tokens of a raw value: a text, or an integer of 64 bits behind an optional minus sign. -/
inductive SpellsRawValue : Input → RawValue → Prop where
  | text {span : Span} {spelling s : String} (h : Literal.value spelling = .text s) :
      SpellsRawValue [.literal span spelling] (.text s)
  | unsigned {span : Span} {spelling : String} {m : Nat} {n : Int64}
      (h : Literal.value spelling = .integer m) (hn : n.toInt = m) :
      SpellsRawValue [.literal span spelling] (.integer n)
  | negated {sign span : Span} {spacing : Spacing} {spelling : String} {m : Nat} {n : Int64}
      (h : Literal.value spelling = .integer m) (hn : n.toInt = -m) :
      SpellsRawValue [.punct sign '-' spacing, .literal span spelling] (.integer n)

/-- An argument by its key. -/
inductive Entry where
  | rawValue (value : RawValue)
  | safeCase (name : Name)

/-- The key of an argument. -/
def Entry.key : Entry → String
  | rawValue _ => "raw_value"
  | safeCase _ => "safe_case"

/-- The tokens of what is given: a raw value, or a name. -/
inductive SpellsValue : Input → Entry → Prop where
  | rawValue {code : Input} {value : RawValue} (h : SpellsRawValue code value) :
      SpellsValue code (.rawValue value)
  | safeCase (span : Span) (name : Name) : SpellsValue [.ident span name.text] (.safeCase name)

/-- The tokens of an argument: its key, an `=`, and what is given. -/
inductive SpellsEntry : Input → Entry → Prop where
  | intro {key mark : Span} {spacing : Spacing} {code : Input} {entry : Entry}
      (h : SpellsValue code entry) :
      SpellsEntry (.ident key entry.key :: .punct mark '=' spacing :: code) entry

/-- A list of arguments: none, one, or one before a comma and a further list. So there are commas
between the arguments, and there may be one after the last. -/
inductive SpellsList : Input → List Entry → Prop where
  | empty : SpellsList [] []
  | last {code : Input} {entry : Entry} (h : SpellsEntry code entry) : SpellsList code [entry]
  | more {code rest : Input} {mark : Span} {spacing : Spacing} {entry : Entry}
      {entries : List Entry} (h : SpellsEntry code entry) (hrest : SpellsList rest entries) :
      SpellsList (code ++ .punct mark ',' spacing :: rest) (entry :: entries)

/-- Was this argument given? -/
def Holds (args : Arguments) : Entry → Prop
  | .rawValue value => args.rawValue = some value
  | .safeCase name => args.fallbackName = some name

/-- Each key is given at most once, and the arguments hold what is given and nothing else. -/
structure Collects (entries : List Entry) (args : Arguments) : Prop where
  once : (entries.map Entry.key).Nodup
  holds : ∀ e, args.Holds e ↔ e ∈ entries

/-- The tokens are a list of arguments with these values. -/
def Spells (input : Input) (args : Arguments) : Prop :=
  ∃ entries, SpellsList input entries ∧ Collects entries args

end Arguments

/-! ### Raw values -/

namespace RawValue

lemma ofInt?_eq_some_iff {z : Int} {value : RawValue} :
    ofInt? z = some value ↔ ∃ n : Int64, value = .integer n ∧ n.toInt = z := by
  constructor
  · intro h
    obtain ⟨n, hn, rfl⟩ := Option.map_eq_some_iff.mp h
    rw [int64?, Int64.toInt_minValue, Int64.toInt_maxValue] at hn
    split_ifs at hn with hrange
    cases hn
    exact ⟨_, rfl, Int64.toInt_ofInt_of_le (by omega) (by omega)⟩
  · rintro ⟨n, rfl, rfl⟩
    exact ofInt?_toInt n

end RawValue

namespace Arguments

/-- What is read as a literal is one, a truth value, or a number behind a minus sign. -/
lemma literal_cases {input rest : Input} {lit : SignedLiteral}
    (h : literal input = .ok (lit, rest)) :
    (∃ span spelling, input = .literal span spelling :: rest ∧
      lit = ⟨false, Literal.value spelling, span⟩) ∨
    lit.value = .other ∨
    ∃ sign spacing span spelling,
      input = .punct sign '-' spacing :: .literal span spelling :: rest ∧
      lit = ⟨true, Literal.value spelling, sign.through span⟩ := by
  unfold literal at h
  split at h
  · cases h
    exact .inl ⟨_, _, rfl, rfl⟩
  · split_ifs at h
    · cases h
      exact .inr (.inl rfl)
    · cases h
  · split_ifs at h
    · cases h
      exact .inr (.inr ⟨_, _, _, _, rfl, rfl⟩)
    · cases h
  · cases h
  · cases h

/-- An integer behind at most one minus sign is a raw value if it has 64 bits. -/
lemma rawValueOf_integer (negated negative : Bool) (m : Nat) (span : Span) :
    rawValueOf negated ⟨negative, .integer m, span⟩ =
      if negated && negative then .error ⟨.integerRange, span⟩
      else (RawValue.ofInt? (if negated || negative then -m else m)).elim
        (.error ⟨.integerRange, span⟩) .ok := by
  cases negated <;> cases negative <;> simp only [rawValueOf]
  · simp only [Bool.or_self, Bool.and_self, Bool.false_eq_true, if_false]
    cases RawValue.ofInt? m <;> rfl
  · simp only [Bool.or_true, Bool.and_true, Bool.false_eq_true, if_false, if_true]
    cases RawValue.ofInt? (-m) <;> rfl
  · simp only [Bool.or_false, Bool.and_false, Bool.false_eq_true, if_false, if_true]
    cases RawValue.ofInt? (-m) <;> rfl
  · rfl

/-- A raw value is a text without a sign, or an integer behind at most one. -/
lemma rawValueOf_eq_ok_iff {negated : Bool} {lit : SignedLiteral} {value : RawValue} :
    rawValueOf negated lit = .ok value ↔
      (negated = false ∧ ∃ s, lit.value = .text s ∧ value = .text s) ∨
      ((negated && lit.negative) = false ∧ ∃ (m : Nat) (n : Int64), lit.value = .integer m ∧
        value = .integer n ∧ n.toInt = if negated || lit.negative then -(m : Int) else m) := by
  obtain ⟨negative, literalValue, span⟩ := lit
  cases literalValue with
  | text s => cases negated <;> simp [rawValueOf, eq_comm]
  | fraction => simp [rawValueOf]
  | other => simp [rawValueOf]
  | integer m =>
    have helim (x : Option RawValue) :
        x.elim (.error ⟨.integerRange, span⟩) .ok = (.ok value : Except ArgumentError RawValue) ↔
          x = some value := by
      cases x <;> simp
    rw [rawValueOf_integer]
    cases hsigns : negated && negative with
    | true => simp
    | false => simp [helim, RawValue.ofInt?_eq_some_iff]

/-- A raw value is read as a literal, behind a minus sign if one is there. -/
lemma exists_literal_of_rawValue? {input rest : Input} {value : RawValue}
    (h : rawValue? input = .ok (value, rest)) :
    ∃ negated body lit, literal body = .ok (lit, rest) ∧ rawValueOf negated lit = .ok value ∧
      if negated then ∃ sign spacing, input = .punct sign '-' spacing :: body
      else input = body ∧ ∀ sign spacing tail, input ≠ .punct sign '-' spacing :: tail := by
  unfold rawValue? at h
  split at h
  next negated body hbody =>
    split at h
    · cases h
    · next lit rest' hlit =>
      split at h
      · cases h
      · next value' hvalue =>
        cases h
        refine ⟨negated, body, lit, hlit, hvalue, ?_⟩
        split at hbody
        · cases hbody
          exact ⟨_, _, rfl⟩
        · next hsign =>
          cases hbody
          exact ⟨rfl, fun sign spacing tail => hsign sign spacing tail⟩

/-- What an integer gives where a raw value is due. -/
def integerOutcome (z : Int) (span : Span) (rest : Input) :
    Except ArgumentError (RawValue × Input) :=
  (RawValue.ofInt? z).elim (.error ⟨.integerRange, span⟩) fun value => .ok (value, rest)

lemma integerOutcome_eq_ok_iff {z : Int} {span : Span} {rest after : Input} {value : RawValue} :
    integerOutcome z span rest = .ok (value, after) ↔
      (∃ n : Int64, value = .integer n ∧ n.toInt = z) ∧ rest = after := by
  rw [← RawValue.ofInt?_eq_some_iff, integerOutcome]
  cases RawValue.ofInt? z <;> simp

lemma rawValue?_integer {spelling : String} {m : Nat} (h : Literal.value spelling = .integer m)
    (span : Span) (rest : Input) :
    rawValue? (.literal span spelling :: rest) = integerOutcome m span rest := by
  simp only [rawValue?, literal, h, rawValueOf_integer, integerOutcome]
  cases hm : RawValue.ofInt? m <;> simp [hm]

lemma rawValue?_negated_integer {spelling : String} {m : Nat}
    (h : Literal.value spelling = .integer m) (sign span : Span) (spacing : Spacing)
    (rest : Input) :
    rawValue? (.punct sign '-' spacing :: .literal span spelling :: rest) =
      integerOutcome (-m) span rest := by
  simp only [rawValue?, literal, h, rawValueOf_integer, integerOutcome]
  cases hm : RawValue.ofInt? (-m) <;> simp [hm]

/-- A raw value is read from its tokens, whatever follows. -/
lemma SpellsRawValue.rawValue?_append {code : Input} {value : RawValue}
    (h : SpellsRawValue code value) (rest : Input) :
    rawValue? (code ++ rest) = .ok (value, rest) := by
  cases h with
  | text h => simp [rawValue?, literal, rawValueOf, h]
  | @unsigned _ _ _ n h hn =>
    rw [List.singleton_append, rawValue?_integer h, integerOutcome_eq_ok_iff]
    exact ⟨⟨n, rfl, hn⟩, rfl⟩
  | @negated _ _ _ _ _ n h hn =>
    rw [List.cons_append, List.singleton_append, rawValue?_negated_integer h,
      integerOutcome_eq_ok_iff]
    exact ⟨⟨n, rfl, hn⟩, rfl⟩

lemma rawValue?_eq_ok_iff {input rest : Input} {value : RawValue} :
    rawValue? input = .ok (value, rest) ↔
      ∃ code, input = code ++ rest ∧ SpellsRawValue code value := by
  constructor
  · intro h
    obtain ⟨negated, body, lit, hlit, hvalue, hbody⟩ := exists_literal_of_rawValue? h
    rcases literal_cases hlit with ⟨span, spelling, rfl, rfl⟩ | hother |
      ⟨sign, spacing, span, spelling, rfl, rfl⟩
    · rcases rawValueOf_eq_ok_iff.mp hvalue with ⟨rfl, s, hs, rfl⟩ | ⟨-, m, n, hm, rfl, hn⟩
      · exact ⟨_, hbody.1, .text hs⟩
      · cases negated with
        | false => exact ⟨_, hbody.1, .unsigned hm (by simpa using hn)⟩
        | true =>
          obtain ⟨sign, spacing, rfl⟩ := hbody
          exact ⟨_, rfl, .negated hm (by simpa using hn)⟩
    · simp [rawValueOf_eq_ok_iff, hother] at hvalue
    -- A sign that belongs to the literal is a second one.
    · cases negated with
      | false => exact absurd hbody.1 (hbody.2 sign spacing _)
      | true => simp [rawValueOf_eq_ok_iff] at hvalue
  · rintro ⟨code, rfl, hcode⟩
    exact hcode.rawValue?_append rest

/-! ### Entries -/

lemma equals_eq_ok_iff {input rest : Input} :
    equals input = .ok rest ↔ ∃ mark spacing, input = .punct mark '=' spacing :: rest := by
  constructor
  · intro h
    unfold equals at h
    split at h
    · cases h
      exact ⟨_, _, rfl⟩
    · cases h
  · rintro ⟨mark, spacing, rfl⟩
    rfl

lemma identifier_eq_ok_iff {input rest : Input} {name : Name} :
    identifier input = .ok (name, rest) ↔ ∃ span, input = .ident span name.text :: rest := by
  constructor
  · intro h
    unfold identifier at h
    split at h
    · split_ifs at h
      · cases h
      · split at h
        · rename_i hname
          cases h
          exact ⟨_, by rw [Name.ofText?_eq_some_iff.mp hname]⟩
        · cases h
    · cases h
    · cases h
  · rintro ⟨span, rfl⟩
    simp [identifier, name.isName.2]

lemma separator_eq_ok_iff {input rest : Input} :
    separator input = .ok rest ↔
      (input = [] ∧ rest = []) ∨ ∃ mark spacing, input = .punct mark ',' spacing :: rest := by
  constructor
  · intro h
    unfold separator at h
    split at h
    · cases h
      exact .inl ⟨rfl, rfl⟩
    · cases h
      exact .inr ⟨_, _, rfl⟩
    · cases h
  · rintro (⟨rfl, rfl⟩ | ⟨mark, spacing, rfl⟩)
    · rfl
    · rfl

/-- The arguments with one more, unless its key was given before. -/
def add? (args : Arguments) : Entry → Option Arguments
  | .rawValue value =>
    if args.rawValue.isSome then none else some { args with rawValue := some value }
  | .safeCase name =>
    if args.fallbackName.isSome then none else some { args with fallbackName := some name }

lemma add?_rawValue_eq_some_iff {args result : Arguments} {value : RawValue} :
    args.add? (.rawValue value) = some result ↔
      args.rawValue = none ∧ { args with rawValue := some value } = result := by
  cases hgiven : args.rawValue <;> simp [add?, hgiven]

lemma add?_safeCase_eq_some_iff {args result : Arguments} {name : Name} :
    args.add? (.safeCase name) = some result ↔
      args.fallbackName = none ∧ { args with fallbackName := some name } = result := by
  cases hgiven : args.fallbackName <;> simp [add?, hgiven]

/-- An entry is read exactly from its tokens, whatever follows, if its key was not given
before. -/
lemma entry_eq_ok_iff {args result : Arguments} {input rest : Input} :
    entry args input = .ok (result, rest) ↔
      ∃ code e, input = code ++ rest ∧ SpellsEntry code e ∧ args.add? e = some result := by
  constructor
  · intro h
    unfold entry at h
    split at h
    · split_ifs at h with hname hgiven hname hgiven
      · obtain ⟨_, _, herror⟩ := Json.bind_eq_ok_iff.mp h
        cases herror
      · obtain ⟨body, hbody, hread⟩ := Json.bind_eq_ok_iff.mp h
        obtain ⟨⟨value, after⟩, hvalue, hresult⟩ := Json.bind_eq_ok_iff.mp hread
        cases hresult
        obtain ⟨mark, spacing, rfl⟩ := equals_eq_ok_iff.mp hbody
        obtain ⟨code, rfl, hcode⟩ := rawValue?_eq_ok_iff.mp hvalue
        exact ⟨_, _, by rw [hname]; rfl, .intro (.rawValue hcode), by simp [add?, hgiven]⟩
      · obtain ⟨_, _, herror⟩ := Json.bind_eq_ok_iff.mp h
        cases herror
      · obtain ⟨body, hbody, hread⟩ := Json.bind_eq_ok_iff.mp h
        obtain ⟨⟨name, after⟩, hvalue, hresult⟩ := Json.bind_eq_ok_iff.mp hread
        cases hresult
        obtain ⟨mark, spacing, rfl⟩ := equals_eq_ok_iff.mp hbody
        obtain ⟨span, rfl⟩ := identifier_eq_ok_iff.mp hvalue
        exact ⟨_, _, by rw [hname]; rfl, .intro (.safeCase span name), by simp [add?, hgiven]⟩
      · cases h
    · cases h
  · rintro ⟨code, e, rfl, ⟨hvalue⟩, hadd⟩
    cases hvalue with
    | rawValue hcode =>
      obtain ⟨hgiven, rfl⟩ := add?_rawValue_eq_some_iff.mp hadd
      simp [entry, Entry.key, equals, hgiven, Json.bind_eq_ok_iff, hcode.rawValue?_append]
    | safeCase span name =>
      obtain ⟨hgiven, rfl⟩ := add?_safeCase_eq_some_iff.mp hadd
      simp [entry, Entry.key, equals, hgiven, Json.bind_eq_ok_iff, identifier_eq_ok_iff]

lemma SpellsEntry.length_pos {code : Input} {e : Entry} (h : SpellsEntry code e) :
    0 < code.length := by
  cases h
  simp

/-! ### Lists of entries -/

lemma spellsList_nil_iff {es : List Entry} : SpellsList [] es ↔ es = [] := by
  constructor
  · intro h
    generalize hinput : ([] : Input) = input at h
    cases h with
    | empty => rfl
    | last h =>
      subst hinput
      exact absurd h.length_pos (by simp)
    | more h hrest => simp at hinput
  · rintro rfl
    exact .empty

/-- The arguments with further ones, unless a key is given twice. -/
def addAll? (args : Arguments) (es : List Entry) : Option Arguments := es.foldlM add? args

lemma addAll?_cons_eq_some_iff {args result : Arguments} {e : Entry} {es : List Entry} :
    args.addAll? (e :: es) = some result ↔
      ∃ args', args.add? e = some args' ∧ args'.addAll? es = some result := by
  rw [addAll?, List.foldlM_cons]
  exact Option.bind_eq_some_iff

@[simp] lemma entries_nil (bound : Nat) (args : Arguments) :
    entries bound args [] = .ok args := by
  cases bound <;> rfl

/-- One step of the reader: an entry, and what follows it. -/
lemma entries_succ_eq_ok_iff {bound : Nat} {args result : Arguments} {input : Input}
    (hinput : input ≠ []) :
    entries (bound + 1) args input = .ok result ↔
      ∃ args' rest rest', entry args input = .ok (args', rest) ∧ separator rest = .ok rest' ∧
        entries bound args' rest' = .ok result := by
  cases input with
  | nil => exact absurd rfl hinput
  | cons token input => simp [entries, Json.bind_eq_ok_iff]

/-- The reader goes from entry to entry. The bound is enough, as each entry has tokens. -/
lemma entries_eq_ok_iff {bound : Nat} {args result : Arguments} {input : Input}
    (hbound : input.length ≤ bound) :
    entries bound args input = .ok result ↔
      ∃ es, SpellsList input es ∧ args.addAll? es = some result := by
  induction bound generalizing args input with
  | zero =>
    obtain rfl : input = [] := List.length_eq_zero_iff.mp (by omega)
    simp [spellsList_nil_iff, addAll?]
  | succ bound ih =>
    by_cases hinput : input = []
    · simp [hinput, spellsList_nil_iff, addAll?]
    rw [entries_succ_eq_ok_iff hinput]
    constructor
    · rintro ⟨args', rest, rest', hentry, hseparator, hrest⟩
      obtain ⟨code, e, rfl, hcode, hadd⟩ := entry_eq_ok_iff.mp hentry
      have hpos := hcode.length_pos
      rcases separator_eq_ok_iff.mp hseparator with ⟨rfl, rfl⟩ | ⟨mark, spacing, rfl⟩
      · obtain rfl : args' = result := by simpa using hrest
        exact ⟨[e], by simpa using SpellsList.last hcode,
          addAll?_cons_eq_some_iff.mpr ⟨args', hadd, rfl⟩⟩
      · rw [List.length_append, List.length_cons] at hbound
        obtain ⟨es, hes, hall⟩ := (ih (by omega)).mp hrest
        exact ⟨e :: es, .more hcode hes, addAll?_cons_eq_some_iff.mpr ⟨args', hadd, hall⟩⟩
    · rintro ⟨es, hes, hall⟩
      cases hes with
      | empty => exact absurd rfl hinput
      | last hcode =>
        obtain ⟨args', hadd, hall⟩ := addAll?_cons_eq_some_iff.mp hall
        obtain rfl : args' = result := by simpa [addAll?] using hall
        exact ⟨args', [], [], entry_eq_ok_iff.mpr ⟨_, _, by simp, hcode, hadd⟩, rfl, by simp⟩
      | more hcode hrest =>
        have hpos := hcode.length_pos
        obtain ⟨args', hadd, hall⟩ := addAll?_cons_eq_some_iff.mp hall
        rw [List.length_append, List.length_cons] at hbound
        exact ⟨args', _, _, entry_eq_ok_iff.mpr ⟨_, _, rfl, hcode, hadd⟩, rfl,
          (ih (by omega)).mpr ⟨_, hrest, hall⟩⟩

/-! ### Each key once -/

lemma ext_holds {args args' : Arguments} (h : ∀ e, args.Holds e ↔ args'.Holds e) :
    args = args' := by
  obtain ⟨rawValue, fallbackName⟩ := args
  obtain ⟨rawValue', fallbackName'⟩ := args'
  rw [Arguments.mk.injEq]
  exact ⟨Option.ext fun value => h (.rawValue value), Option.ext fun name => h (.safeCase name)⟩

lemma holds_empty (e : Entry) : ¬ Holds {} e := by
  cases e <;> simp [Holds]

/-- An argument is added exactly if none was given for its key. -/
lemma exists_add?_iff {args : Arguments} {e : Entry} :
    (∃ result, args.add? e = some result) ↔ ∀ e', args.Holds e' → e'.key ≠ e.key := by
  constructor
  · rintro ⟨result, hadd⟩ e' he' hkey
    cases e <;> cases e' <;> simp_all [Holds, Entry.key, add?]
  · intro h
    cases e with
    | rawValue value =>
      have hgiven : args.rawValue = none :=
        Option.eq_none_iff_forall_ne_some.mpr fun other hother => h (.rawValue other) hother rfl
      exact ⟨_, add?_rawValue_eq_some_iff.mpr ⟨hgiven, rfl⟩⟩
    | safeCase name =>
      have hgiven : args.fallbackName = none :=
        Option.eq_none_iff_forall_ne_some.mpr fun other hother => h (.safeCase other) hother rfl
      exact ⟨_, add?_safeCase_eq_some_iff.mpr ⟨hgiven, rfl⟩⟩

lemma holds_add? {args result : Arguments} {e : Entry} (h : args.add? e = some result)
    (e' : Entry) :
    result.Holds e' ↔ args.Holds e' ∨ e' = e := by
  cases e with
  | rawValue value =>
    obtain ⟨hgiven, rfl⟩ := add?_rawValue_eq_some_iff.mp h
    cases e' <;> simp [Holds, hgiven, eq_comm]
  | safeCase name =>
    obtain ⟨hgiven, rfl⟩ := add?_safeCase_eq_some_iff.mp h
    cases e' <;> simp [Holds, hgiven, eq_comm]

/-- Arguments are added one by one exactly if each has a key of its own that was not given
before. -/
lemma addAll?_eq_some_iff {args result : Arguments} {es : List Entry} :
    args.addAll? es = some result ↔
      (es.map Entry.key).Nodup ∧ (∀ e ∈ es, ∀ e', args.Holds e' → e'.key ≠ e.key) ∧
        ∀ e, result.Holds e ↔ args.Holds e ∨ e ∈ es := by
  induction es generalizing args with
  | nil =>
    simp only [addAll?, List.foldlM_nil, List.map_nil, List.nodup_nil, List.not_mem_nil,
      or_false, false_imp_iff, implies_true, true_and]
    constructor
    · intro h e
      cases h
      exact Iff.rfl
    · intro h
      exact congrArg some (ext_holds fun e => (h e).symm)
  | cons e es ih =>
    rw [addAll?_cons_eq_some_iff, List.map_cons, List.nodup_cons]
    constructor
    · rintro ⟨args', hadd, hall⟩
      obtain ⟨honce, hfresh, hholds⟩ := ih.mp hall
      have hnew := exists_add?_iff.mp ⟨args', hadd⟩
      simp only [holds_add? hadd] at hfresh hholds
      refine ⟨⟨?_, honce⟩, ?_, ?_⟩
      · rintro hkey
        obtain ⟨d, hd, hde⟩ := List.mem_map.mp hkey
        exact hfresh d hd e (.inr rfl) hde.symm
      · intro d hd e' he'
        rcases List.mem_cons.mp hd with rfl | hd
        · exact hnew e' he'
        · exact hfresh d hd e' (.inl he')
      · intro e'
        rw [hholds, List.mem_cons, or_assoc]
    · rintro ⟨⟨hkey, honce⟩, hfresh, hholds⟩
      obtain ⟨args', hadd⟩ := exists_add?_iff.mpr (hfresh e List.mem_cons_self)
      refine ⟨args', hadd, ih.mpr ⟨honce, ?_, ?_⟩⟩
      · intro d hd e' he'
        rcases (holds_add? hadd e').mp he' with he' | rfl
        · exact hfresh d (List.mem_cons_of_mem e hd) e' he'
        · exact fun hde => hkey (hde ▸ List.mem_map_of_mem hd)
      · intro e'
        rw [hholds, holds_add? hadd, List.mem_cons, or_assoc]

lemma addAll?_empty_eq_some_iff {result : Arguments} {es : List Entry} :
    addAll? {} es = some result ↔ Collects es result := by
  rw [addAll?_eq_some_iff]
  constructor
  · rintro ⟨honce, -, hholds⟩
    exact ⟨honce, by simpa [holds_empty] using hholds⟩
  · rintro ⟨honce, hholds⟩
    exact ⟨honce, by simp [holds_empty], by simpa [holds_empty] using hholds⟩

/-- Arguments are read exactly from the tokens that spell them. -/
theorem parse_eq_ok_iff {input : Input} {args : Arguments} :
    parse input = .ok args ↔ Spells input args := by
  rw [parse, entries_eq_ok_iff le_rfl, Spells]
  simp only [addAll?_empty_eq_some_iff]

/-- A text gives arguments exactly if it has tokens and these spell them. -/
lemma ofText_eq_ok_iff {source : String} {args : Arguments} :
    ofText source = .ok args ↔
      ∃ tokens, TokenTree.lex? source = some tokens ∧ Spells tokens args := by
  unfold ofText
  cases TokenTree.lex? source with
  | none => simp
  | some tokens =>
    simp only [Option.some.injEq, exists_eq_left', ← parse_eq_ok_iff]
    cases parse tokens <;> simp [Except.mapError]

/-- The order of the entries does not matter. -/
lemma Collects.perm {es es' : List Entry} {args : Arguments} (h : Collects es args)
    (hperm : es.Perm es') : Collects es' args where
  once := (hperm.map Entry.key).nodup_iff.mp h.once
  holds e := (h.holds e).trans hperm.mem_iff

lemma isReserved_raw (name : String) : Keyword.isReserved ("r#" ++ name) = false := by
  have hall : ∀ word ∈ Keyword.all, ¬ ['r', '#'] <+: word.toList := by decide
  rw [Keyword.isReserved, List.contains_eq_mem, decide_eq_false_iff_not]
  intro hmem
  refine hall _ hmem ⟨name.toList, ?_⟩
  rw [String.toList_append]
  rfl

/-- In a text, an identifier is a name exactly if it is no keyword. -/
lemma exists_name_iff_of_lex? {source : String} {tokens : Input} {span : Span} {text : String}
    (hlex : TokenTree.lex? source = some tokens) (hmem : .ident span text ∈ tokens) :
    (∃ name : Name, name.text = text) ↔ Keyword.isReserved text = false := by
  constructor
  · rintro ⟨name, rfl⟩
    exact name.isName.2
  · exact (TokenTree.wellSpelled_of_lex? hlex _ hmem).exists_name

/-- The reader of arguments accepts exactly their grammar, on tokens and on texts, and returns
what the entries give. The identifiers of a text are names unless they are keywords, and one with
the raw mark is never a keyword. Neither the order of the entries nor a comma after the last one
makes a difference. -/
theorem arguments_read_iff_spelled :
    (∀ input args, parse input = .ok args ↔ Spells input args) ∧
    (∀ source args, ofText source = .ok args ↔
      ∃ tokens, TokenTree.lex? source = some tokens ∧ Spells tokens args) ∧
    (∀ source tokens span text, TokenTree.lex? source = some tokens → .ident span text ∈ tokens →
      ((∃ name : Name, name.text = text) ↔ Keyword.isReserved text = false)) ∧
    (∀ name, Keyword.isReserved ("r#" ++ name) = false) ∧
    ∀ es args, Collects es args → ∀ es' input, es.Perm es' → SpellsList input es' →
      parse input = .ok args := by
  refine ⟨fun _ _ => parse_eq_ok_iff, fun _ _ => ofText_eq_ok_iff,
    fun _ _ _ _ => exists_name_iff_of_lex?, isReserved_raw, ?_⟩
  intro es args hes es' input hperm hinput
  exact parse_eq_ok_iff.mpr ⟨es', hinput, hes.perm hperm⟩

/-- Two arguments in both orders, with a comma after the last one and without. -/
theorem both_orders_read :
    parse [.ident Span.nowhere "safe_case", .punct Span.nowhere '=' .alone,
      .ident Span.nowhere "r#loop", .punct Span.nowhere ',' .alone,
      .ident Span.nowhere "raw_value", .punct Span.nowhere '=' .alone,
      .punct Span.nowhere '-' .alone, .literal Span.nowhere "0x80_00i64",
      .punct Span.nowhere ',' .alone] = .ok ⟨some (.integer (-32768)), some (.mk "r#loop")⟩ ∧
    parse [.ident Span.nowhere "raw_value", .punct Span.nowhere '=' .alone,
      .punct Span.nowhere '-' .alone, .literal Span.nowhere "0x80_00i64",
      .punct Span.nowhere ',' .alone, .ident Span.nowhere "safe_case",
      .punct Span.nowhere '=' .alone, .ident Span.nowhere "r#loop"] =
      .ok ⟨some (.integer (-32768)), some (.mk "r#loop")⟩ := by
  have hcollects : Collects [.safeCase (.mk "r#loop"), .rawValue (.integer (-32768))]
      ⟨some (.integer (-32768)), some (.mk "r#loop")⟩ := by
    refine ⟨by decide, fun e => ?_⟩
    cases e <;> simp [Holds, eq_comm]
  have hname : SpellsEntry [.ident Span.nowhere "safe_case", .punct Span.nowhere '=' .alone,
      .ident Span.nowhere "r#loop"] (.safeCase (.mk "r#loop")) :=
    .intro (.safeCase Span.nowhere (.mk "r#loop"))
  have hvalue : SpellsEntry [.ident Span.nowhere "raw_value", .punct Span.nowhere '=' .alone,
      .punct Span.nowhere '-' .alone, .literal Span.nowhere "0x80_00i64"]
      (.rawValue (.integer (-32768))) :=
    .intro (.rawValue (.negated (m := 32768) (by decide +kernel) (by decide)))
  have hread := arguments_read_iff_spelled.2.2.2.2 _ _ hcollects
  exact ⟨hread _ _ (.refl _) (.more hname (.more hvalue .empty)),
    hread _ _ (.swap _ _ _) (.more hvalue (.last hname))⟩

end Arguments

/-! ### The range of integers -/

namespace Literal.SpellsInteger

variable {spelling : String} {m : Nat}

/-- An integer is one literal, whatever follows at a boundary. -/
lemma isWhole (h : SpellsInteger spelling.toList m) : TokenTree.IsWhole spelling := by
  intro rest hrest
  have hread := read?_of_spellsInteger h hrest
  have hleaf := Lexeme.leaf?_of_read? hread
  rw [String.ofList_toList] at hleaf
  obtain ⟨⟨c, hhead, hc⟩, -, -⟩ := read?_eq_integer_iff.mp hread
  obtain ⟨cs, hcons⟩ := List.head?_eq_some_iff.mp hhead
  rw [← hleaf, hcons]
  refine Lexeme.next?_eq_leaf? cs (Lexeme.isBlank_of_isDigit hc) ?_
  intro hmem
  have hall : ∀ d ∈ Lexeme.nonLeaves, d.isDigit = false := forall_mem_of_all (by decide)
  exact ne_of_isDigit hc (hall c hmem) rfl

lemma exists_lex?_eq (h : SpellsInteger spelling.toList m) :
    ∃ span, TokenTree.lex? spelling = some [.literal span spelling] := by
  obtain ⟨trees, hlex, hforget⟩ := (Legible.literal h.isWhole .nil).lex?_printTokens
  obtain ⟨t, rfl, ht⟩ := List.map_eq_singleton_iff.mp hforget
  obtain ⟨span, rfl⟩ := TokenTree.exists_literal ht
  exact ⟨span, by simpa [printTokens, TokenTree.charsAll, TokenTree.chars, Token.lit] using hlex⟩

end Literal.SpellsInteger

namespace Arguments

lemma exists_int64_iff {z : Int} : (∃ n : Int64, n.toInt = z) ↔ -2 ^ 63 ≤ z ∧ z < 2 ^ 63 := by
  constructor
  · rintro ⟨n, rfl⟩
    exact ⟨n.le_toInt, n.toInt_lt⟩
  · rintro ⟨hmin, hmax⟩
    exact ⟨Int64.ofInt z, Int64.toInt_ofInt_of_le hmin hmax⟩

/-- An integer of 64 bits is taken as it is. -/
lemma integerOutcome_fits_iff {z : Int} {span : Span} {rest : Input} :
    (∃ n : Int64, n.toInt = z ∧ integerOutcome z span rest = .ok (.integer n, rest)) ↔
      -2 ^ 63 ≤ z ∧ z < 2 ^ 63 := by
  rw [← exists_int64_iff]
  constructor
  · rintro ⟨n, hn, -⟩
    exact ⟨n, hn⟩
  · rintro ⟨n, hn⟩
    exact ⟨n, hn, integerOutcome_eq_ok_iff.mpr ⟨⟨n, rfl, hn⟩, rfl⟩⟩

/-- Any other integer is refused. -/
lemma integerOutcome_of_out_of_range {z : Int} (h : ¬ (-2 ^ 63 ≤ z ∧ z < 2 ^ 63)) (span : Span)
    (rest : Input) : integerOutcome z span rest = .error ⟨.integerRange, span⟩ := by
  cases hz : RawValue.ofInt? z with
  | none => rw [integerOutcome, hz, Option.elim_none]
  | some value =>
    obtain ⟨n, -, hn⟩ := RawValue.ofInt?_eq_some_iff.mp hz
    exact absurd (exists_int64_iff.mp ⟨n, hn⟩) h

/-- An integer of any base is read as the number that its digits denote, or its opposite behind a
minus sign, exactly if that has 64 bits. Any other one is refused at its literal. -/
theorem integer_arguments_read_exactly {spelling : String} {m : Nat}
    (h : Literal.SpellsInteger spelling.toList m) (span sign : Span) (spacing : Spacing)
    (rest : Input) :
    (∃ place, TokenTree.lex? spelling = some [.literal place spelling]) ∧
    ((∃ n : Int64, n.toInt = m ∧
      rawValue? (.literal span spelling :: rest) = .ok (.integer n, rest)) ↔ m ≤ 2 ^ 63 - 1) ∧
    (¬ m ≤ 2 ^ 63 - 1 →
      rawValue? (.literal span spelling :: rest) = .error ⟨.integerRange, span⟩) ∧
    (∀ value after, rawValue? (.literal span spelling :: rest) = .ok (value, after) →
      ∃ n : Int64, value = .integer n ∧ n.toInt = m) ∧
    ((∃ n : Int64, n.toInt = -m ∧
      rawValue? (.punct sign '-' spacing :: .literal span spelling :: rest) =
        .ok (.integer n, rest)) ↔ m ≤ 2 ^ 63) ∧
    (¬ m ≤ 2 ^ 63 →
      rawValue? (.punct sign '-' spacing :: .literal span spelling :: rest) =
        .error ⟨.integerRange, span⟩) ∧
    (∀ value after,
      rawValue? (.punct sign '-' spacing :: .literal span spelling :: rest) =
        .ok (value, after) →
      ∃ n : Int64, value = .integer n ∧ n.toInt = -m) ∧
    ArgumentFault.message .integerRange = "integer `raw_value` must fit in i64" := by
  rw [rawValue?_integer h.value_eq, rawValue?_negated_integer h.value_eq]
  refine ⟨h.exists_lex?_eq, integerOutcome_fits_iff.trans (by omega), ?_, ?_,
    integerOutcome_fits_iff.trans (by omega), ?_, ?_, rfl⟩
  · intro hm
    exact integerOutcome_of_out_of_range (by omega) span rest
  · intro value after hvalue
    exact (integerOutcome_eq_ok_iff.mp hvalue).1
  · intro hm
    exact integerOutcome_of_out_of_range (by omega) span rest
  · intro value after hvalue
    exact (integerOutcome_eq_ok_iff.mp hvalue).1

/-- The magnitude of the least integer, with underscores and a suffix: it needs its sign. -/
theorem least_integer_needs_sign :
    Literal.SpellsInteger "0x8000_0000_0000_0000_i64".toList (2 ^ 63) ∧
    rawValue? [.literal Span.nowhere "0x8000_0000_0000_0000_i64"] =
      .error ⟨.integerRange, Span.nowhere⟩ ∧
    ∃ n : Int64, n.toInt = -2 ^ 63 ∧
      rawValue? [.punct Span.nowhere '-' .alone,
        .literal Span.nowhere "0x8000_0000_0000_0000_i64"] = .ok (.integer n, []) := by
  have hspells : Literal.SpellsInteger "0x8000_0000_0000_0000_i64".toList (2 ^ 63) :=
    Literal.read?_eq_integer_iff_spellsInteger.mp (by decide +kernel)
  obtain ⟨-, -, hrefused, -, hfits, -, -, -⟩ :=
    integer_arguments_read_exactly hspells Span.nowhere Span.nowhere .alone []
  exact ⟨hspells, hrefused (by decide), hfits.mpr (by decide)⟩

end Arguments

end FallbackEnum
