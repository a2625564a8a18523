import FallbackEnum.Json.Reader
import Mathlib.Data.List.Basic
import Mathlib.Tactic.Lemma
import Mathlib.Tactic.SplitIfs

/-!
# Texts in JSON

A grammar of JSON texts that does not say how they are read, and the proof that the reader
accepts exactly its texts. The reader goes through states in the middle of an escape. What ties
them to the grammar is the pending part of a spelling: the characters since the last complete
one.
-/

namespace FallbackEnum

namespace Json

/-! ### Grammar -/

/-- The characters behind a backslash and what they stand for. -/
def simpleEscapes : List (Char × Char) :=
  [('"', '"'), ('\\', '\\'), ('/', '/'), ('b', '\x08'), ('f', '\x0c'), ('n', '\n'), ('r', '\r'),
    ('t', '\t')]

/-- The number that hexadecimal digits denote. -/
def hexValue? (digits : List Char) : Option Nat :=
  digits.foldlM (fun n c => (Literal.hexDigit? c).map (n * 16 + ·)) 0

/-- Four hexadecimal digits and the number that they denote. -/
def IsCodeUnit (digits : List Char) (n : Nat) : Prop :=
  digits.length = 4 ∧ hexValue? digits = some n

/-- The spellings of one character: itself, a simple escape, its code, or two halves of a
pair. -/
inductive SpellsChar : List Char → Char → Prop
  | plain {c : Char} (hquote : c ≠ '"') (hescape : c ≠ '\\') (hcontrol : 0x20 ≤ c.toNat) :
    SpellsChar [c] c
  | simple {c d : Char} (hsimple : (c, d) ∈ simpleEscapes) : SpellsChar ['\\', c] d
  | code {digits : List Char} {n : Nat} (hunit : IsCodeUnit digits n)
    (hhalf : n < 0xD800 ∨ 0xDFFF < n) : SpellsChar ('\\' :: 'u' :: digits) (Char.ofNat n)
  | pair {first second : List Char} {high low : Nat} (hfirst : IsCodeUnit first high)
    (hhigh : 0xD800 ≤ high ∧ high ≤ 0xDBFF) (hsecond : IsCodeUnit second low)
    (hlow : 0xDC00 ≤ low ∧ low ≤ 0xDFFF) :
    SpellsChar (('\\' :: 'u' :: first) ++ ('\\' :: 'u' :: second))
      (Char.ofNat (0x10000 + (high - 0xD800) * 0x400 + (low - 0xDC00)))

/-- The spellings of the characters between two quotes. -/
inductive SpellsChars : List Char → List Char → Prop
  | nil : SpellsChars [] []
  | cons {spelling rest : List Char} {d : Char} {ds : List Char} (hchar : SpellsChar spelling d)
    (hrest : SpellsChars rest ds) : SpellsChars (spelling ++ rest) (d :: ds)

lemma simpleEscape?_eq_some_iff {c d : Char} :
    simpleEscape? c = some d ↔ (c, d) ∈ simpleEscapes := by
  constructor
  · intro h
    unfold simpleEscape? at h
    split_ifs at h with hself
    · simp only [Bool.or_eq_true, decide_eq_true_eq] at hself
      cases h
      rcases hself with (rfl | rfl) | rfl <;> simp [simpleEscapes]
    all_goals
      cases h
      simp_all [simpleEscapes]
  · intro h
    simp only [simpleEscapes, List.mem_cons, List.not_mem_nil, Prod.mk.injEq, or_false] at h
    rcases h with ⟨rfl, rfl⟩ | ⟨rfl, rfl⟩ | ⟨rfl, rfl⟩ | ⟨rfl, rfl⟩ | ⟨rfl, rfl⟩ | ⟨rfl, rfl⟩ |
      ⟨rfl, rfl⟩ | ⟨rfl, rfl⟩ <;> decide

lemma hexValue?_concat {digits : List Char} {c : Char} {n d : Nat}
    (hn : hexValue? digits = some n)
    (hd : Literal.hexDigit? c = some d) : hexValue? (digits ++ [c]) = some (n * 16 + d) := by
  rw [hexValue?, List.foldlM_append]
  rw [hexValue?] at hn
  simp [hn, hd]

lemma isLowHalf_iff {n : Nat} : isLowHalf n = true ↔ 0xDC00 ≤ n ∧ n ≤ 0xDFFF := by
  simp [isLowHalf]

lemma isHighHalf_iff {n : Nat} : isHighHalf n = true ↔ 0xD800 ≤ n ∧ n ≤ 0xDBFF := by
  simp [isHighHalf]

/-! ### Pending spellings -/

/-- The reader is in a state after these characters of an incomplete spelling. -/
inductive TextState.Pending : TextState → List Char → Prop
  | plain : Pending .plain []
  | escape : Pending .escape ['\\']
  | code {digits : List Char} {n : Nat} (hcount : digits.length ≤ 3)
    (hvalue : hexValue? digits = some n) :
    Pending (.code none digits.length n) ('\\' :: 'u' :: digits)
  | pairEscape {first : List Char} {high : Nat} (hfirst : IsCodeUnit first high)
    (hhigh : 0xD800 ≤ high ∧ high ≤ 0xDBFF) : Pending (.pairEscape high) ('\\' :: 'u' :: first)
  | pairCode {first : List Char} {high : Nat} (hfirst : IsCodeUnit first high)
    (hhigh : 0xD800 ≤ high ∧ high ≤ 0xDBFF) :
    Pending (.pairCode high) ('\\' :: 'u' :: first ++ ['\\'])
  | pairDigits {first digits : List Char} {high n : Nat} (hfirst : IsCodeUnit first high)
    (hhigh : 0xD800 ≤ high ∧ high ≤ 0xDBFF) (hcount : digits.length ≤ 3)
    (hvalue : hexValue? digits = some n) :
    Pending (.code (some high) digits.length n)
      (('\\' :: 'u' :: first) ++ ('\\' :: 'u' :: digits))

/-- Characters complete a pending spelling to a text, up to its closing quote. -/
def Completes (pending cs ds rest : List Char) : Prop :=
  ∃ body, cs = body ++ '"' :: rest ∧ SpellsChars (pending ++ body) ds

namespace Completes

variable {pending cs ds rest : List Char} {c d : Char}

lemma close : Completes [] ('"' :: rest) [] rest := ⟨[], rfl, .nil⟩

lemma move (h : Completes (pending ++ [c]) cs ds rest) :
    Completes pending (c :: cs) ds rest := by
  obtain ⟨body, rfl, hbody⟩ := h
  refine ⟨c :: body, rfl, ?_⟩
  rwa [List.append_assoc] at hbody

lemma emit (hchar : SpellsChar (pending ++ [c]) d) (h : Completes [] cs ds rest) :
    Completes pending (c :: cs) (d :: ds) rest := by
  obtain ⟨body, rfl, hbody⟩ := h
  refine ⟨c :: body, rfl, ?_⟩
  have htext := SpellsChars.cons hchar hbody
  rwa [List.append_assoc] at htext

end Completes

namespace TextState.Pending

variable {high : Option Nat} {count n d : Nat} {c : Char} {pending : List Char}

/-- A digit that is not the last of its code. -/
lemma digit (h : Pending (.code high count n) pending) (hd : Literal.hexDigit? c = some d)
    (hcount : count < 3) : Pending (.code high (count + 1) (n * 16 + d)) (pending ++ [c]) := by
  cases h with
  | @code digits _ _ hvalue =>
    have hlength : (digits ++ [c]).length ≤ 3 := by
      rw [List.length_append, List.length_singleton]
      omega
    have hmore := Pending.code hlength (hexValue?_concat hvalue hd)
    rwa [List.length_append] at hmore
  | @pairDigits _ digits _ _ hfirst hhigh _ hvalue =>
    have hlength : (digits ++ [c]).length ≤ 3 := by
      rw [List.length_append, List.length_singleton]
      omega
    have hmore := Pending.pairDigits hfirst hhigh hlength (hexValue?_concat hvalue hd)
    rw [List.length_append] at hmore
    simpa using hmore

/-- The last digit of a code that does not follow the first half of a pair. -/
lemma lastDigit (h : Pending (.code none count n) pending) (hd : Literal.hexDigit? c = some d)
    (hcount : ¬ count < 3) :
    ∃ digits, pending ++ [c] = '\\' :: 'u' :: digits ∧ IsCodeUnit digits (n * 16 + d) := by
  cases h with
  | @code digits _ hle hvalue =>
    refine ⟨digits ++ [c], rfl, ?_, hexValue?_concat hvalue hd⟩
    rw [List.length_append, List.length_singleton]
    omega

lemma lastPairDigit {half : Nat} (h : Pending (.code (some half) count n) pending)
    (hd : Literal.hexDigit? c = some d) (hcount : ¬ count < 3)
    (hlow : 0xDC00 ≤ n * 16 + d ∧ n * 16 + d ≤ 0xDFFF) :
    SpellsChar (pending ++ [c])
      (Char.ofNat (0x10000 + (half - 0xD800) * 0x400 + (n * 16 + d - 0xDC00))) := by
  cases h with
  | @pairDigits first digits _ _ hfirst hhigh hle hvalue =>
    have hunit : IsCodeUnit (digits ++ [c]) (n * 16 + d) := by
      refine ⟨?_, hexValue?_concat hvalue hd⟩
      rw [List.length_append, List.length_singleton]
      omega
    have hpair := SpellsChar.pair hfirst hhigh hunit hlow
    simpa using hpair

end TextState.Pending

/-! ### The reader -/

lemma bind_eq_ok_iff {ε α β : Type} {x : Except ε α} {f : α → Except ε β} {b : β} :
    (x >>= f) = .ok b ↔ ∃ a, x = .ok a ∧ f a = .ok b := by
  cases x <;> simp [bind, Except.bind]

lemma emit_eq_ok_iff {x : Except DecodeError (List Char × List Char)} {d : Char}
    {ds rest : List Char} :
    (do let (ds, after) ← x; Except.ok (d :: ds, after)) = Except.ok (ds, rest) ↔
      ∃ tail, x = .ok (tail, rest) ∧ ds = d :: tail := by
  rw [bind_eq_ok_iff]
  constructor
  · rintro ⟨⟨tail, _⟩, hx, ⟨⟩⟩
    exact ⟨tail, hx, rfl⟩
  · rintro ⟨tail, hx, rfl⟩
    exact ⟨(tail, rest), hx, rfl⟩

/-- The reader only accepts what completes the spelling that is pending. -/
lemma readTextFrom_sound {cs rest : List Char} {state : TextState} {ds pending : List Char}
    (h : readTextFrom state cs = .ok (ds, rest)) (hpending : state.Pending pending) :
    Completes pending cs ds rest := by
  have hshort : ([] : List Char).length ≤ 3 := Nat.zero_le 3
  have hzero : hexValue? [] = some 0 := rfl
  -- Each character either ends the pending spelling, which begins anew, or becomes part of it.
  induction cs generalizing state ds pending with
  | nil => cases h
  | cons c cs ih =>
    cases state with
    | plain =>
      cases hpending
      simp only [readTextFrom] at h
      split_ifs at h with hquote hescape hcontrol
      · cases hquote
        cases h
        exact .close
      · exact .move (ih h (hescape ▸ .escape))
      · obtain ⟨tail, htail, rfl⟩ := emit_eq_ok_iff.mp h
        exact .emit (.plain hquote hescape (Nat.not_lt.mp hcontrol)) (ih htail .plain)
    | escape =>
      cases hpending
      cases hsimple : simpleEscape? c with
      | some d =>
        simp only [readTextFrom, hsimple] at h
        obtain ⟨tail, htail, rfl⟩ := emit_eq_ok_iff.mp h
        exact .emit (.simple (simpleEscape?_eq_some_iff.mp hsimple)) (ih htail .plain)
      | none =>
        simp only [readTextFrom, hsimple] at h
        split_ifs at h with hcode
        exact .move (ih h (hcode ▸ .code hshort hzero))
    | code high count n =>
      cases hd : Literal.hexDigit? c with
      | none => simp [readTextFrom, hd] at h
      | some d =>
        simp only [readTextFrom, hd] at h
        by_cases hcount : count < 3
        · rw [if_pos hcount] at h
          exact .move (ih h (hpending.digit hd hcount))
        rw [if_neg hcount] at h
        -- The last digit decides between a character, the first half of a pair and an error.
        cases high with
        | some half =>
          simp only at h
          split_ifs at h with hlow
          obtain ⟨tail, htail, rfl⟩ := emit_eq_ok_iff.mp h
          have hchar := hpending.lastPairDigit hd hcount (isLowHalf_iff.mp hlow)
          exact .emit hchar (ih htail .plain)
        | none =>
          obtain ⟨digits, hdigits, hunit⟩ := hpending.lastDigit hd hcount
          simp only at h
          split_ifs at h with hlow hhigh
          · have hpair := TextState.Pending.pairEscape hunit (isHighHalf_iff.mp hhigh)
            exact .move (ih h (hdigits ▸ hpair))
          · obtain ⟨tail, htail, rfl⟩ := emit_eq_ok_iff.mp h
            rw [isLowHalf_iff] at hlow
            rw [isHighHalf_iff] at hhigh
            have hchar := SpellsChar.code hunit (by omega)
            exact .emit (hdigits ▸ hchar) (ih htail .plain)
    | pairEscape high =>
      cases hpending with
      | pairEscape hfirst hhigh =>
        simp only [readTextFrom] at h
        split_ifs at h with hescape
        exact .move (ih h (hescape ▸ .pairCode hfirst hhigh))
    | pairCode high =>
      cases hpending with
      | pairCode hfirst hhigh =>
        simp only [readTextFrom] at h
        split_ifs at h with hcode
        have hpair := TextState.Pending.pairDigits hfirst hhigh hshort hzero
        refine .move (ih h ?_)
        rw [hcode]
        simpa using hpair

/-! ### Reading spellings -/

/-- Four digits are never cut off. -/
lemma isShort_append {digits : List Char} (hlength : digits.length = 4) (rest : List Char) :
    isShort (digits ++ rest) = false := by
  obtain ⟨a, b, c, d, rfl⟩ := List.length_eq_four.mp hlength
  have ha := Char.utf8Size_pos a
  have hb := Char.utf8Size_pos b
  have hc := Char.utf8Size_pos c
  have hd := Char.utf8Size_pos d
  rw [isShort, decide_eq_false_iff_not]
  simp only [List.cons_append, List.take_succ_cons, List.take_zero, List.foldl_cons,
    List.foldl_nil]
  omega

lemma readTextFrom_escape (cs : List Char) :
    readTextFrom .plain ('\\' :: cs) = readTextFrom .escape cs := by
  simp [readTextFrom]

lemma readTextFrom_digit {high : Option Nat} {count n d : Nat} {c : Char} {cs : List Char}
    (hd : Literal.hexDigit? c = some d) (hcount : count < 3) :
    readTextFrom (.code high count n) (c :: cs) =
      readTextFrom (.code high (count + 1) (n * 16 + d)) cs := by
  simp [readTextFrom, hd, hcount]

/-- The reader comes to the last digit of a code. -/
lemma readTextFrom_digits {digits : List Char} {n : Nat} (hunit : IsCodeUnit digits n)
    (high : Option Nat) (rest : List Char) :
    ∃ c d v, Literal.hexDigit? c = some d ∧ v * 16 + d = n ∧
      readTextFrom (.code high 0 0) (digits ++ rest) =
        readTextFrom (.code high 3 v) (c :: rest) := by
  obtain ⟨hlength, hvalue⟩ := hunit
  obtain ⟨a, b, c, d, rfl⟩ := List.length_eq_four.mp hlength
  simp only [hexValue?, List.foldlM_cons, List.foldlM_nil, Option.bind_eq_bind,
    Option.bind_eq_some_iff, Option.map_eq_some_iff, Option.pure_def,
    Option.some.injEq] at hvalue
  obtain ⟨_, ⟨w, hw, rfl⟩, _, ⟨x, hx, rfl⟩, _, ⟨y, hy, rfl⟩, _, ⟨z, hz, rfl⟩, rfl⟩ := hvalue
  refine ⟨d, z, _, hz, rfl, ?_⟩
  simp only [List.cons_append, List.nil_append]
  rw [readTextFrom_digit hw (by omega), readTextFrom_digit hx (by omega),
    readTextFrom_digit hy (by omega)]

lemma readTextFrom_unit {digits : List Char} {n : Nat} (hunit : IsCodeUnit digits n)
    (rest : List Char) :
    ∃ c d v, Literal.hexDigit? c = some d ∧ v * 16 + d = n ∧
      readTextFrom .plain ('\\' :: 'u' :: digits ++ rest) =
        readTextFrom (.code none 3 v) (c :: rest) := by
  obtain ⟨c, d, v, hd, hn, hdigits⟩ := readTextFrom_digits hunit none rest
  refine ⟨c, d, v, hd, hn, ?_⟩
  have hsimple : simpleEscape? 'u' = none := by decide
  have hshort := isShort_append hunit.1 rest
  rw [← hdigits, List.cons_append, List.cons_append, readTextFrom_escape]
  simp [readTextFrom, hsimple, hshort]

lemma readTextFrom_pair {digits : List Char} {n : Nat} (hunit : IsCodeUnit digits n) (high : Nat)
    (rest : List Char) :
    ∃ c d v, Literal.hexDigit? c = some d ∧ v * 16 + d = n ∧
      readTextFrom (.pairEscape high) ('\\' :: 'u' :: digits ++ rest) =
        readTextFrom (.code (some high) 3 v) (c :: rest) := by
  obtain ⟨c, d, v, hd, hn, hdigits⟩ := readTextFrom_digits hunit (some high) rest
  refine ⟨c, d, v, hd, hn, ?_⟩
  have hshort := isShort_append hunit.1 rest
  rw [← hdigits, List.cons_append, List.cons_append]
  simp [readTextFrom, hshort]

/-- The reader takes in the spelling of a character as a whole. -/
lemma readTextFrom_char {spelling : List Char} {d : Char} (h : SpellsChar spelling d)
    (rest : List Char) :
    readTextFrom .plain (spelling ++ rest) =
      (do let (ds, after) ← readTextFrom .plain rest; .ok (d :: ds, after)) := by
  cases h with
  | plain hquote hescape hcontrol =>
    simp [readTextFrom, hquote, hescape, Nat.not_lt.mpr hcontrol]
  | simple hsimple =>
    rw [List.cons_append, readTextFrom_escape]
    simp [readTextFrom, simpleEscape?_eq_some_iff.mpr hsimple]
  | code hunit hhalf =>
    obtain ⟨c, d, v, hd, rfl, hdigits⟩ := readTextFrom_unit hunit rest
    have hlow : ¬ isLowHalf (v * 16 + d) = true := by
      rw [isLowHalf_iff]
      omega
    have hhigh : ¬ isHighHalf (v * 16 + d) = true := by
      rw [isHighHalf_iff]
      omega
    rw [hdigits]
    simp [readTextFrom, hd, hlow, hhigh]
  | @pair first second _ _ hfirst hhigh hsecond hlow =>
    obtain ⟨c, d, v, hd, rfl, hdigits⟩ :=
      readTextFrom_unit hfirst ('\\' :: 'u' :: second ++ rest)
    obtain ⟨c', d', v', hd', rfl, hdigits'⟩ := readTextFrom_pair hsecond (v * 16 + d) rest
    have hfirstLow : ¬ isLowHalf (v * 16 + d) = true := by
      rw [isLowHalf_iff]
      omega
    have hfirstHigh := isHighHalf_iff.mpr hhigh
    have hsecondLow := isLowHalf_iff.mpr hlow
    calc readTextFrom .plain ('\\' :: 'u' :: first ++ '\\' :: 'u' :: second ++ rest)
        = readTextFrom (.code none 3 v) (c :: ('\\' :: 'u' :: second ++ rest)) := by
          rw [List.append_assoc, hdigits]
      _ = readTextFrom (.pairEscape (v * 16 + d)) ('\\' :: 'u' :: second ++ rest) := by
          rw [readTextFrom]
          simp [hd, hfirstLow, hfirstHigh]
      _ = readTextFrom (.code (some (v * 16 + d)) 3 v') (c' :: rest) := hdigits'
      _ = _ := by
          rw [readTextFrom]
          simp [hd', hsecondLow]

lemma readTextFrom_complete {body ds : List Char} (h : SpellsChars body ds) (rest : List Char) :
    readTextFrom .plain (body ++ '"' :: rest) = .ok (ds, rest) := by
  induction h with
  | nil => simp [readTextFrom]
  | cons hchar _ ih =>
    rw [List.append_assoc, readTextFrom_char hchar, ih]
    rfl

/-- The reader of a text accepts exactly the spellings of its characters. -/
theorem readText_eq_ok_iff {cs rest : List Char} {value : String} :
    readText cs = .ok (value, rest) ↔
      ∃ body, cs = body ++ '"' :: rest ∧ SpellsChars body value.toList := by
  rw [readText, bind_eq_ok_iff]
  constructor
  · rintro ⟨⟨chars, _⟩, hread, ⟨⟩⟩
    obtain ⟨body, hbody, hchars⟩ := readTextFrom_sound hread .plain
    exact ⟨body, hbody, by simpa using hchars⟩
  · rintro ⟨body, rfl, hchars⟩
    exact ⟨(value.toList, rest), readTextFrom_complete hchars rest, by simp⟩

end Json

end FallbackEnum
