import FallbackEnum.Proofs.JsonInteger
import FallbackEnum.Proofs.Numerals
import FallbackEnum.Proofs.QuotedText
import FallbackEnum.Token.Lexer

/-!
# Lexemes before a boundary

In printed code a token is followed by a space, by a closing delimiter or by nothing. Before such
a boundary a name, the literal of a raw value and an operator are each cut off whole, as the
lexemes that they were printed from.
-/

namespace FallbackEnum

/-! ### Classes of characters -/

/-- Tables whose ranges all lie apart have no character in common. -/
lemma CodeRanges.contains_eq_false_of_apart {table other : CodeRanges} {c : Char}
    (hapart : (table.all fun r => other.all fun s => r.2 < s.1 || s.2 < r.1) = true)
    (hc : table.contains c = true) : other.contains c = false := by
  obtain ⟨r, hr, hrc⟩ := List.any_eq_true.mp hc
  rw [CodeRanges.contains, List.any_eq_false]
  intro s hs
  have hrs := List.all_eq_true.mp (List.all_eq_true.mp hapart r hr) s hs
  simp only [Bool.and_eq_true, Bool.or_eq_true, decide_eq_true_eq] at hrc hrs ⊢
  omega

namespace Lexeme

open Text
open Literal (AtBoundary atBoundary_nil atBoundary_cons boundaries forall_mem_of_all)

/-- The first characters of names, in one table. -/
def nameStarts : CodeRanges := (0x5F, 0x5F) :: identStartRanges

lemma contains_nameStarts {c : Char} (hc : isIdentStart c = true) :
    nameStarts.contains c = true := by
  have hletters : (0x41, 0x5A) ∈ identStartRanges ∧ (0x61, 0x7A) ∈ identStartRanges := by
    decide +kernel
  unfold isIdentStart at hc
  rw [nameStarts, CodeRanges.contains_cons, Bool.or_eq_true]
  split_ifs at hc
  · rcases Bool.or_eq_true_iff.mp hc with hc | hc
    · left
      rw [eq_of_beq hc]
      rfl
    · right
      rw [CodeRanges.contains, List.any_eq_true]
      obtain hupper | hlower := Bool.or_eq_true_iff.mp hc
      · have hrange : 0x41 ≤ c.toNat ∧ c.toNat ≤ 0x5A := of_decide_eq_true hupper
        exact ⟨_, hletters.1, by simpa using hrange⟩
      · exact ⟨_, hletters.2, hlower⟩
  · exact Or.inr hc

/-- Blank space, in one table. -/
def blanks : CodeRanges :=
  [(0x20, 0x20), (0x09, 0x0D), (0x85, 0x85), (0xA0, 0xA0), (0x1680, 0x1680), (0x2000, 0x200A),
    (0x200E, 0x200F), (0x2028, 0x2029), (0x202F, 0x202F), (0x205F, 0x205F), (0x3000, 0x3000)]

lemma isBlank_eq_contains (c : Char) : isBlank c = blanks.contains c := by
  have hspace : decide (c = ' ') = (decide (0x20 ≤ c.toNat) && decide (c.toNat ≤ 0x20)) := by
    rw [Bool.eq_iff_iff, decide_eq_true_eq, Bool.and_eq_true, decide_eq_true_eq,
      decide_eq_true_eq, ← Char.toNat_inj]
    exact Nat.eq_iff_le_and_ge.trans And.comm
  rw [isBlank, hspace, Bool.or_assoc]
  rfl

lemma isDigit_eq_contains (c : Char) : c.isDigit = CodeRanges.contains [(0x30, 0x39)] c := by
  rw [CodeRanges.contains_cons, CodeRanges.contains_nil, Bool.or_false]
  rfl

lemma isBlank_of_isIdentStart {c : Char} (hc : isIdentStart c = true) : isBlank c = false := by
  rw [isBlank_eq_contains]
  exact CodeRanges.contains_eq_false_of_apart (by decide +kernel) (contains_nameStarts hc)

lemma isDigit_of_isIdentStart {c : Char} (hc : isIdentStart c = true) : c.isDigit = false := by
  rw [isDigit_eq_contains]
  exact CodeRanges.contains_eq_false_of_apart (by decide +kernel) (contains_nameStarts hc)

lemma isBlank_of_isDigit {c : Char} (hc : c.isDigit = true) : isBlank c = false := by
  rw [isDigit_eq_contains] at hc
  rw [isBlank_eq_contains]
  exact CodeRanges.contains_eq_false_of_apart (by decide) hc

/-- Names begin with no character of another kind. -/
lemma ne_of_isIdentStart {c d : Char} (hc : isIdentStart c = true)
    (hd : isIdentStart d = false) :
    c ≠ d := by
  rintro rfl
  exact Bool.false_ne_true (hd.symm.trans hc)

lemma isPunct_of_isIdentStart {c : Char} (hc : isIdentStart c = true) : isPunct c = false := by
  rw [isPunct, List.contains_eq_mem, decide_eq_false_iff_not]
  intro hmem
  have hother : isIdentStart c = false :=
    forall_mem_of_all (p := fun d => isIdentStart d = false) (by decide) c hmem
  exact ne_of_isIdentStart hc hother rfl

/-! ### Leaves -/

/-- The characters that begin a comment or belong to a group. -/
def nonLeaves : List Char := ['/', '(', '[', '{', ')', ']', '}']

/-- What begins neither a comment nor a group nor blank space is a leaf. -/
lemma next?_eq_leaf? {c : Char} (cs : List Char) (hblank : isBlank c = false)
    (hother : c ∉ nonLeaves) : next? (c :: cs) = leaf? (c :: cs) := by
  simp only [nonLeaves, List.mem_cons, List.not_mem_nil, or_false, not_or] at hother
  unfold next?
  split <;> simp_all

lemma leaf?_of_read? {cs rest : List Char} {value : Literal.Value}
    (h : Literal.read? (cs ++ rest) = some (value, rest)) :
    leaf? (cs ++ rest) = some (.literal (String.ofList cs), rest) := by
  simp only [leaf?, h, List.length_append, Nat.add_sub_cancel_right, List.take_left']

/-! ### Names -/

/-- What may follow the first character of a name: further characters of it, and then a
boundary. -/
def NameTail (cs : List Char) : Prop := AtBoundary (cs.dropWhile isIdentContinue)

namespace NameTail

lemma of_append {ds rest : List Char} (hds : ∀ d ∈ ds, isIdentContinue d = true)
    (hrest : AtBoundary rest) : NameTail (ds ++ rest) := by
  rw [NameTail, (Json.span_append hds hrest.isIdentContinue).2]
  exact hrest

lemma tail {d : Char} {cs : List Char} (h : NameTail (d :: cs)) (hd : isIdentContinue d = true) :
    NameTail cs := by
  rwa [NameTail, List.dropWhile_cons_of_pos hd] at h

/-- Neither quote nor hash follows. -/
lemma ne {d : Char} {cs : List Char} (h : NameTail (d :: cs)) : d ∉ ['"', '\'', '#'] := by
  intro hmem
  have hquoting : ∀ d ∈ ['"', '\'', '#'], isIdentContinue d = false ∧ d ∉ boundaries :=
    forall_mem_of_all (by decide)
  obtain ⟨hcontinue, hboundary⟩ := hquoting d hmem
  rw [NameTail, List.dropWhile_cons_of_neg (by simp [hcontinue]), atBoundary_cons] at h
  exact hboundary h

lemma readRaw? {cs : List Char} (h : NameTail cs) (flavour : Literal.Flavour) :
    Literal.readRaw? flavour cs = none := by
  cases cs with
  | nil => rfl
  | cons d cs =>
    have hd := h.ne
    simp only [List.mem_cons, List.not_mem_nil, or_false, not_or] at hd
    simp [Literal.readRaw?, hd]

end NameTail

lemma read?_plainName {c : Char} {cs : List Char} (hc : isIdentStart c = true)
    (h : NameTail cs) :
    Literal.read? (c :: cs) = none := by
  have hquote : c ≠ '"' := ne_of_isIdentStart hc rfl
  have hlifetime : c ≠ '\'' := ne_of_isIdentStart hc rfl
  have htext : Literal.readText? (c :: cs) = none := by
    unfold Literal.readText?
    split
    · simp_all
    · rename_i heq
      cases heq
      simp [h.readRaw?]
    · rename_i heq
      cases heq
      exact absurd h.ne (by decide)
    · rename_i heq
      cases heq
      simp [(h.tail rfl).readRaw?]
    · rename_i heq
      cases heq
      exact absurd h.ne (by decide)
    · rename_i heq
      cases heq
      simp [(h.tail rfl).readRaw?]
    · rfl
  unfold Literal.read?
  rw [htext, Option.none_or]
  split
  · rename_i heq
    cases heq
    exact absurd h.ne (by decide)
  · simp_all
  · rename_i heq
    cases heq
    simp [isDigit_of_isIdentStart hc]
  · rfl

lemma startsLikeLiteral_plainName {c : Char} {cs : List Char} (h : NameTail cs) :
    startsLikeLiteral (c :: cs) = false := by
  cases cs with
  | nil => simp [startsLikeLiteral, List.isPrefixOf]
  | cons d cs =>
    have hd := h.ne
    simp only [List.mem_cons, List.not_mem_nil, or_false, not_or] at hd
    by_cases hr : d = 'r'
    · subst hr
      cases cs with
      | nil => simp [startsLikeLiteral, List.isPrefixOf]
      | cons e cs =>
        have he := (h.tail rfl).ne
        simp only [List.mem_cons, List.not_mem_nil, or_false, not_or] at he
        simp [startsLikeLiteral, List.isPrefixOf, Ne.symm he.1, Ne.symm he.2.2]
    · simp [startsLikeLiteral, List.isPrefixOf, Ne.symm hd.1, Ne.symm hd.2.1, Ne.symm hd.2.2,
        Ne.symm hr]

/-- A raw mark is followed by the beginning of a name, so it begins no raw text. -/
lemma read?_rawName {c : Char} (cs : List Char) (hc : isIdentStart c = true) :
    Literal.read? ('r' :: '#' :: c :: cs) = none := by
  have hhash : c ≠ '#' := ne_of_isIdentStart hc rfl
  have hquote : c ≠ '"' := ne_of_isIdentStart hc rfl
  simp [Literal.read?, Literal.readText?, Literal.readRaw?, hhash, hquote]

lemma startsLikeLiteral_rawName {c : Char} (cs : List Char) (hc : isIdentStart c = true) :
    startsLikeLiteral ('r' :: '#' :: c :: cs) = false := by
  have hhash : c ≠ '#' := ne_of_isIdentStart hc rfl
  have hquote : c ≠ '"' := ne_of_isIdentStart hc rfl
  simp [startsLikeLiteral, List.isPrefixOf, Ne.symm hhash, Ne.symm hquote]

/-- What begins like a name and like no literal is the name at its front. -/
lemma next?_of_isIdentStart {c : Char} {cs : List Char} (hc : isIdentStart c = true)
    (hread : Literal.read? (c :: cs) = none) (hlike : startsLikeLiteral (c :: cs) = false) :
    next? (c :: cs) = (splitName? (c :: cs)).map fun (name, rest) => (.ident name, rest) := by
  have hother : c ∉ nonLeaves := by
    intro hmem
    have hall : ∀ d ∈ nonLeaves, isIdentStart d = false := forall_mem_of_all (by decide)
    exact ne_of_isIdentStart hc (hall c hmem) rfl
  rw [next?_eq_leaf? cs (isBlank_of_isIdentStart hc) hother]
  simp [leaf?, hread, hlike, punctuation?, startsWithPunct, isPunct_of_isIdentStart hc]

/-- What is split off begins like a name and goes on like one. -/
lemma exists_of_splitIdent? {cs name rest : List Char}
    (h : Literal.splitIdent? cs = some (name, rest)) :
    ∃ c ds, name = c :: ds ∧ isIdentStart c = true ∧ (∀ d ∈ ds, isIdentContinue d = true) ∧
      name ++ rest = cs := by
  cases cs with
  | nil => cases h
  | cons c ds =>
    simp only [Literal.splitIdent?, Option.ite_none_right_eq_some, Option.some.injEq,
      Prod.mk.injEq] at h
    obtain ⟨hc, rfl, rfl⟩ := h
    refine ⟨c, _, rfl, hc, fun d hd => List.mem_takeWhile_imp hd, ?_⟩
    rw [List.cons_append, List.takeWhile_append_dropWhile]

lemma splitIdent?_eq_some_nil {cs name : List Char}
    (h : Literal.splitIdent? cs = some (name, [])) :
    name = cs ∧ ∃ c ds, cs = c :: ds ∧ isIdentStart c = true ∧
      ∀ d ∈ ds, isIdentContinue d = true := by
  obtain ⟨c, ds, rfl, hc, hds, hcs⟩ := exists_of_splitIdent? h
  rw [List.append_nil] at hcs
  exact ⟨hcs, c, ds, hcs.symm, hc, hds⟩

lemma splitIdent?_append {c : Char} {ds rest : List Char} (hc : isIdentStart c = true)
    (hds : ∀ d ∈ ds, isIdentContinue d = true) (hrest : AtBoundary rest) :
    Literal.splitIdent? (c :: (ds ++ rest)) = some (c :: ds, rest) := by
  obtain ⟨htake, hdrop⟩ := Json.span_append hds hrest.isIdentContinue
  rw [Literal.splitIdent?, if_pos hc, htake, hdrop]

/-- A name is a raw one, or it begins like a name and goes on like one. -/
lemma IsIdent.spelling {name : String} (h : IsIdent name) :
    ∃ c ds, isIdentStart c = true ∧ (∀ d ∈ ds, isIdentContinue d = true) ∧
      (name.toList = c :: ds ∨
        name.toList = 'r' :: '#' :: c :: ds ∧
          unrawable.contains (String.ofList (c :: ds)) = false) := by
  unfold IsIdent splitName? at h
  split at h
  · rename_i body hbody
    cases hsplit : Literal.splitIdent? body with
    | none => simp [hsplit] at h
    | some found =>
      obtain ⟨found, rest⟩ := found
      simp only [hsplit, Option.ite_none_left_eq_some, Option.some.injEq, Prod.mk.injEq] at h
      obtain ⟨hraw, -, rfl⟩ := h
      obtain ⟨rfl, c, ds, rfl, hc, hds⟩ := splitIdent?_eq_some_nil hsplit
      exact ⟨c, ds, hc, hds, .inr ⟨hbody, by simpa using hraw⟩⟩
  · obtain ⟨⟨found, rest⟩, hsplit, heq⟩ := Option.map_eq_some_iff.mp h
    obtain ⟨-, rfl⟩ := Prod.mk.inj heq
    obtain ⟨-, c, ds, hname, hc, hds⟩ := splitIdent?_eq_some_nil hsplit
    exact ⟨c, ds, hc, hds, .inl hname⟩

lemma splitName?_plain {c : Char} {ds rest : List Char} (hc : isIdentStart c = true)
    (hds : ∀ d ∈ ds, isIdentContinue d = true) (hrest : AtBoundary rest) :
    splitName? (c :: (ds ++ rest)) = some (String.ofList (c :: ds), rest) := by
  have htail := NameTail.of_append hds hrest
  unfold splitName?
  split
  · rename_i heq
    rw [(List.cons.inj heq).2] at htail
    exact absurd htail.ne (by decide)
  · rw [splitIdent?_append hc hds hrest]
    rfl

lemma splitName?_raw {c : Char} {ds rest : List Char} (hc : isIdentStart c = true)
    (hds : ∀ d ∈ ds, isIdentContinue d = true) (hrest : AtBoundary rest)
    (hraw : unrawable.contains (String.ofList (c :: ds)) = false) :
    splitName? ('r' :: '#' :: c :: (ds ++ rest)) =
      some (String.ofList ('r' :: '#' :: c :: ds), rest) := by
  simp only [splitName?, splitIdent?_append hc hds hrest, hraw, Bool.false_eq_true, if_false]

/-- Characters of a name, without a raw mark, are one. -/
lemma isIdent_ofList {c : Char} {ds : List Char} (hc : isIdentStart c = true)
    (hds : ∀ d ∈ ds, isIdentContinue d = true) : IsIdent (String.ofList (c :: ds)) := by
  have hsplit := splitName?_plain hc hds atBoundary_nil
  rw [List.append_nil] at hsplit
  rwa [IsIdent, String.toList_ofList]

/-- What is split off as an identifier is one, whatever comes behind it. -/
lemma isIdent_of_splitName? {cs rest : List Char} {name : String}
    (h : splitName? cs = some (name, rest)) : IsIdent name := by
  unfold splitName? at h
  split at h
  · rename_i body
    cases hsplit : Literal.splitIdent? body with
    | none => simp [hsplit] at h
    | some found =>
      obtain ⟨found, after⟩ := found
      simp only [hsplit, Option.ite_none_left_eq_some, Option.some.injEq, Prod.mk.injEq] at h
      obtain ⟨hraw, rfl, -⟩ := h
      obtain ⟨c, ds, rfl, hc, hds, -⟩ := exists_of_splitIdent? hsplit
      have hagain := splitName?_raw hc hds atBoundary_nil (by simpa using hraw)
      rw [List.append_nil] at hagain
      rwa [IsIdent, String.toList_ofList]
  · obtain ⟨⟨found, after⟩, hsplit, heq⟩ := Option.map_eq_some_iff.mp h
    obtain ⟨rfl, -⟩ := Prod.mk.inj heq
    obtain ⟨c, ds, rfl, hc, hds, -⟩ := exists_of_splitIdent? hsplit
    exact isIdent_ofList hc hds

/-- A name before a boundary is cut off as that name. -/
theorem next?_name {name : String} {rest : List Char} (h : IsIdent name)
    (hrest : AtBoundary rest) :
    next? (name.toList ++ rest) = some (.ident name, rest) := by
  obtain ⟨c, ds, hc, hds, hname | ⟨hname, hraw⟩⟩ := h.spelling
  · have htail := NameTail.of_append hds hrest
    rw [hname, List.cons_append, next?_of_isIdentStart hc (read?_plainName hc htail)
      (startsLikeLiteral_plainName htail), splitName?_plain hc hds hrest, ← hname,
      String.ofList_toList]
    rfl
  · rw [hname, List.cons_append, List.cons_append, List.cons_append,
      next?_of_isIdentStart rfl (read?_rawName _ hc) (startsLikeLiteral_rawName _ hc),
      splitName?_raw hc hds hrest hraw, ← hname, String.ofList_toList]
    rfl

/-! ### Literals -/

/-- The literal of a text, before a boundary, is cut off whole. -/
theorem next?_quoted (text : String) {rest : List Char} (hrest : AtBoundary rest) :
    next? ((quoted text).toList ++ rest) = some (.literal (quoted text), rest) := by
  have hread := Literal.read?_quoted text rest
  rw [hrest.dropSuffix] at hread
  have hleaf := leaf?_of_read? hread
  rw [String.ofList_toList] at hleaf
  rw [← hleaf]
  simp only [quoted, String.toList_ofList, List.cons_append]
  exact next?_eq_leaf? _ rfl (by decide)

/-- The numeral of a number, before a boundary, is cut off whole. -/
theorem next?_numeral (n : Nat) {rest : List Char} (hrest : AtBoundary rest) :
    next? ((numeral n).toList ++ rest) = some (.literal (numeral n), rest) := by
  have hleaf := leaf?_of_read? (Literal.read?_numeral n hrest)
  rw [String.ofList_toList] at hleaf
  rw [← hleaf]
  obtain ⟨c, cs, hcons, hdigits⟩ := Literal.exists_numeral_toList n
  have hc := hdigits c List.mem_cons_self
  rw [hcons, List.cons_append]
  refine next?_eq_leaf? _ (isBlank_of_isDigit hc) ?_
  intro hmem
  have hall : ∀ d ∈ nonLeaves, d.isDigit = false := forall_mem_of_all (by decide)
  exact Literal.ne_of_isDigit hc (hall c hmem) rfl

/-! ### Operators -/

/-- The characters of operators: punctuation that begins neither a comment nor a lifetime. -/
def operatorChars : List Char :=
  ['~', '!', '@', '#', '$', '%', '^', '&', '*', '-', '=', '+', '|', ';', ':', ',', '<', '.', '>',
    '?']

lemma startsWithPunct_operatorChar {c : Char} (hc : c ∈ operatorChars) (rest : List Char) :
    startsWithPunct (c :: rest) = true := by
  have hall : ∀ d ∈ operatorChars, isPunct d = true ∧ d ≠ '/' := forall_mem_of_all (by decide)
  obtain ⟨hpunct, hslash⟩ := hall c hc
  simp [startsWithPunct, hpunct, hslash]

lemma startsWithPunct_boundary {cs : List Char} (h : AtBoundary cs) :
    startsWithPunct cs = false := by
  cases cs with
  | nil => rfl
  | cons c cs =>
    have hall : ∀ c ∈ boundaries, isPunct c = false := forall_mem_of_all (by decide)
    simp [startsWithPunct, hall c (h c rfl)]

/-- An operator character is cut off alone; it is joined to punctuation that follows. -/
theorem next?_operatorChar {c : Char} (hc : c ∈ operatorChars) (rest : List Char) :
    next? (c :: rest) =
      some (.punct c (if startsWithPunct rest then .joint else .alone), rest) := by
  have hall : ∀ d ∈ operatorChars, isBlank d = false ∧ d ∉ nonLeaves ∧ d.isDigit = false ∧
      d ∉ ['"', '\'', 'r', 'b', 'c'] := forall_mem_of_all (by decide)
  obtain ⟨hblank, hother, hdigit, hletter⟩ := hall c hc
  simp only [List.mem_cons, List.not_mem_nil, or_false, not_or] at hletter
  have hread : Literal.read? (c :: rest) = none := by
    have htext : Literal.readText? (c :: rest) = none := by
      unfold Literal.readText?
      split <;> simp_all
    unfold Literal.read?
    rw [htext, Option.none_or]
    split <;> simp_all
  rw [next?_eq_leaf? rest hblank hother]
  simp [leaf?, hread, punctuation?, startsWithPunct_operatorChar hc, hletter]

/-! ### Identifiers -/

/-- If the lexeme is an identifier, it is spelled as one. -/
def WellSpelled : Lexeme → Prop
  | ident name => IsIdent name
  | _ => True

variable {cs rest : List Char} {lexeme : Lexeme}

lemma wellSpelled_of_docComment? {inner : Bool} {body : List Char}
    (h : docComment? inner body rest = some (lexeme, cs)) : lexeme.WellSpelled := by
  rw [docComment?, Option.ite_none_right_eq_some] at h
  cases h.2
  trivial

lemma wellSpelled_of_lineComment? (h : lineComment? cs = some (lexeme, rest)) :
    lexeme.WellSpelled := by
  unfold lineComment? at h
  split at h
  · exact wellSpelled_of_docComment? h
  · cases h
    trivial
  · exact wellSpelled_of_docComment? h
  · cases h
    trivial

lemma wellSpelled_of_blockComment? (h : blockComment? cs = some (lexeme, rest)) :
    lexeme.WellSpelled := by
  unfold blockComment? at h
  split at h
  · cases h
    trivial
  · split at h
    · exact wellSpelled_of_docComment? h
    · cases h
  · obtain ⟨_, -, heq⟩ := Option.map_eq_some_iff.mp h
    cases heq
    trivial
  · split at h
    · exact wellSpelled_of_docComment? h
    · cases h
  · obtain ⟨_, -, heq⟩ := Option.map_eq_some_iff.mp h
    cases heq
    trivial

lemma wellSpelled_of_punctuation? {c : Char} (h : punctuation? c cs = some (lexeme, rest)) :
    lexeme.WellSpelled := by
  unfold punctuation? at h
  split_ifs at h <;> cases h <;> trivial

lemma wellSpelled_of_leaf? (h : leaf? cs = some (lexeme, rest)) : lexeme.WellSpelled := by
  unfold leaf? at h
  split at h
  · cases h
    trivial
  · split at h
    · cases h
    · rcases Option.or_eq_some_iff.mp h with hpunct | ⟨-, hident⟩
      · exact wellSpelled_of_punctuation? hpunct
      · rw [Option.ite_none_left_eq_some] at hident
        obtain ⟨⟨name, after⟩, hsplit, heq⟩ := Option.map_eq_some_iff.mp hident.2
        cases heq
        exact isIdent_of_splitName? hsplit

/-- Whatever the source is, an identifier that is cut off is spelled as one. -/
theorem wellSpelled_of_next? (h : next? cs = some (lexeme, rest)) : lexeme.WellSpelled := by
  unfold next? at h
  split at h
  case h_1 => cases h
  case h_2 => exact wellSpelled_of_lineComment? h
  case h_3 => exact wellSpelled_of_blockComment? h
  case h_10 =>
    split_ifs at h
    · cases h
      trivial
    · exact wellSpelled_of_leaf? h
  -- the delimiters
  all_goals
    cases h
    trivial

end Lexeme

end FallbackEnum
