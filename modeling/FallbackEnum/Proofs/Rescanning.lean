import FallbackEnum.Proofs.Lexemes
import FallbackEnum.Token.Code

/-!
# Printed code is scanned back

Code that consists of names, of literals that are cut off whole, of operators and of groups is
printed in such a way that scanning the text gives the code again. The scan is followed in its
states: a piece of text takes a state to one that has more trees, whatever comes behind the next
boundary. Conversely, whatever source is scanned, its identifiers are spelled as such.
-/

namespace FallbackEnum

open Literal (AtBoundary atBoundary_nil atBoundary_cons forall_mem_of_all)

namespace TokenTree

/-! ### States of a scan -/

/-- Where the scan of a source stands: the text that is left and its place, and the trees that
were assembled before. The bound is enough for the text that is left. -/
structure ScanState where
  rest : List Char
  here : Position
  frames : List Frame
  done : List (TokenTree Span)
  bound : Nat
  enough : rest.length ≤ bound

namespace ScanState

/-- The trees that the scan comes to. -/
def trees? (s : ScanState) : Option (List (TokenTree Span)) :=
  (Lexeme.scanFrom? s.bound s.here s.rest).bind (assemble? s.frames s.done)

/-- One lexeme takes a state to another one that comes to the same trees. -/
lemma exists_step {s : ScanState} {cs rest : List Char} {lexeme : Lexeme} (hs : s.rest = cs)
    (hnext : Lexeme.next? cs = some (lexeme, rest)) (hshorter : rest.length < cs.length)
    (frames : Span → List Frame) (done : Span → List (TokenTree Span))
    (heffect : ∀ span later, assemble? s.frames s.done ((lexeme, span) :: later) =
      assemble? (frames span) (done span) later) :
    ∃ (t : ScanState) (span : Span), t.rest = rest ∧ t.frames = frames span ∧
      t.done = done span ∧ t.trees? = s.trees? := by
  obtain ⟨cs, here, openFrames, before, bound, enough⟩ := s
  subst hs
  dsimp only at hnext hshorter heffect
  obtain ⟨c, cs, rfl⟩ := List.exists_cons_of_length_pos (Nat.zero_lt_of_lt hshorter)
  obtain ⟨bound, rfl⟩ : ∃ n, bound = n + 1 :=
    Nat.exists_eq_add_one.mpr (Nat.lt_of_lt_of_le (Nat.zero_lt_of_lt hshorter) enough)
  let there := ((c :: cs).take ((c :: cs).length - rest.length)).foldl Position.advance here
  let span : Span := ⟨here, there⟩
  refine ⟨⟨rest, there, frames span, done span, bound, by omega⟩, span, rfl, rfl, rfl, ?_⟩
  simp only [trees?, Lexeme.scanFrom?, hnext, Option.bind_map]
  congr 1
  funext later
  exact (heffect span later).symm

/-- From one state to another with the same end, code was read and is now among the trees. -/
structure Reads (s t : ScanState) (code : List Token) : Prop where
  trees : t.trees? = s.trees?
  frames : t.frames = s.frames
  done : ∃ placed : List (TokenTree Span), placed.map forget = code ∧
    t.done = placed.reverse ++ s.done

namespace Reads

lemma refl (s : ScanState) : Reads s s [] := ⟨rfl, rfl, [], rfl, rfl⟩

lemma trans {s t u : ScanState} {code more : List Token} (h : Reads s t code)
    (h' : Reads t u more) :
    Reads s u (code ++ more) := by
  obtain ⟨htrees, hframes, placed, rfl, hdone⟩ := h
  obtain ⟨htrees', hframes', placed', rfl, hdone'⟩ := h'
  refine ⟨htrees'.trans htrees, hframes'.trans hframes, placed ++ placed', ?_, ?_⟩
  · rw [List.map_append]
  · rw [hdone', hdone, List.reverse_append, List.append_assoc]

end Reads

end ScanState

/-! ### Pieces of text -/

/-- Before a boundary the text is scanned as this code. -/
def Lexes (cs : List Char) (code : List Token) : Prop :=
  ∀ rest, AtBoundary rest → ∀ s : ScanState, s.rest = cs ++ rest →
    ∃ t : ScanState, t.rest = rest ∧ s.Reads t code

lemma lexes_nil : Lexes [] [] := fun _ _ s hs => ⟨s, hs, .refl s⟩

/-- A text may be followed by one that itself begins with a boundary. -/
lemma Lexes.append {cs ds : List Char} {code more : List Token} (h : Lexes cs code)
    (h' : Lexes ds more) (hboundary : ∀ rest, AtBoundary rest → AtBoundary (ds ++ rest)) :
    Lexes (cs ++ ds) (code ++ more) := by
  intro rest hrest s hs
  rw [List.append_assoc] at hs
  obtain ⟨t, ht, hst⟩ := h (ds ++ rest) (hboundary rest hrest) s hs
  obtain ⟨u, hu, htu⟩ := h' rest hrest t ht
  exact ⟨u, hu, hst.trans htu⟩

/-- A lexeme that stands for one token. -/
lemma lexes_leaf {cs : List Char} {lexeme : Lexeme} {code : Token} (tree : Span → TokenTree Span)
    (hne : cs ≠ []) (hforget : ∀ span, (tree span).forget = code)
    (hnext : ∀ rest, AtBoundary rest → Lexeme.next? (cs ++ rest) = some (lexeme, rest))
    (heffect : ∀ frames done span later, assemble? frames done ((lexeme, span) :: later) =
      assemble? frames (tree span :: done) later) : Lexes cs [code] := by
  intro rest hrest s hs
  have hshorter : rest.length < (cs ++ rest).length := by
    have hpos := List.length_pos_iff.mpr hne
    rw [List.length_append]
    omega
  obtain ⟨t, span, ht, hframes, hdone, htrees⟩ := ScanState.exists_step hs (hnext rest hrest)
    hshorter (fun _ => s.frames) (fun span => tree span :: s.done) (heffect s.frames s.done)
  exact ⟨t, ht, htrees, hframes, [tree span], by simp [hforget], hdone⟩

lemma lexes_name {name : String} (h : Lexeme.IsIdent name) : Lexes name.toList [.word name] := by
  refine lexes_leaf (fun span => .ident span name) ?_ (fun _ => by simp [forget, Token.word])
    (fun rest hrest => Lexeme.next?_name h hrest) ?_
  · intro hnil
    rw [Lexeme.IsIdent, hnil] at h
    cases h
  · intro frames done span later
    cases frames <;> rfl

/-- The text is a literal that is cut off whole before a boundary. -/
def IsWhole (text : String) : Prop :=
  ∀ rest, AtBoundary rest → Lexeme.next? (text.toList ++ rest) = some (.literal text, rest)

lemma lexes_literal {text : String} (h : IsWhole text) : Lexes text.toList [.lit text] := by
  refine lexes_leaf (fun span => .literal span text) ?_
    (fun _ => by simp [forget, Token.lit]) h ?_
  · intro hnil
    have hnext := h [] atBoundary_nil
    rw [hnil] at hnext
    cases hnext
  · intro frames done span later
    cases frames <;> rfl

lemma lexes_space {cs : List Char} {code : List Token} (h : Lexes cs code) :
    Lexes (' ' :: cs) code := by
  intro rest hrest s hs
  have hnext : Lexeme.next? (' ' :: (cs ++ rest)) = some (.blank, cs ++ rest) := rfl
  obtain ⟨t, span, ht, hframes, hdone, htrees⟩ := ScanState.exists_step hs hnext
    (Nat.lt_succ_self _) (fun _ => s.frames) (fun _ => s.done)
    (fun _ _ => by cases s.frames <;> rfl)
  obtain ⟨u, hu, htu⟩ := h rest hrest t ht
  have hst : s.Reads t [] := ⟨htrees, hframes, [], rfl, hdone⟩
  exact ⟨u, hu, hst.trans htu⟩

/-- The characters of an operator are joined, and the last one stands alone. -/
lemma lexes_operator {cs : List Char} (hcs : ∀ c ∈ cs, c ∈ Lexeme.operatorChars) :
    Lexes cs (Token.operatorChars cs) := by
  induction cs with
  | nil => exact lexes_nil
  | cons c cs ih =>
    intro rest hrest s hs
    have hnext := Lexeme.next?_operatorChar (hcs c List.mem_cons_self) (cs ++ rest)
    obtain ⟨t, span, ht, hframes, hdone, htrees⟩ := ScanState.exists_step hs hnext
      (Nat.lt_succ_self _) (fun _ => s.frames)
      (fun span => .punct span c
        (if Lexeme.startsWithPunct (cs ++ rest) then .joint else .alone) :: s.done)
      (fun _ _ => by cases s.frames <;> rfl)
    obtain ⟨u, hu, htu⟩ := ih (fun d hd => hcs d (List.mem_cons_of_mem c hd)) rest hrest t ht
    refine ⟨u, hu, ?_⟩
    cases cs with
    | nil =>
      have hst : s.Reads t [.punct () c .alone] := by
        refine ⟨htrees, hframes, [.punct span c .alone], by simp [forget], ?_⟩
        rw [hdone, List.nil_append, Lexeme.startsWithPunct_boundary hrest]
        rfl
      exact hst.trans htu
    | cons d cs =>
      have hst : s.Reads t [.punct () c .joint] := by
        refine ⟨htrees, hframes, [.punct span c .joint], by simp [forget], ?_⟩
        rw [hdone, List.cons_append,
          Lexeme.startsWithPunct_operatorChar (hcs d (by simp)) (cs ++ rest)]
        rfl
      exact hst.trans htu

end TokenTree

/-! ### Groups -/

namespace Delimiter

/-- The character before the content of a group. -/
def left : Delimiter → Char
  | paren => '('
  | bracket => '['
  | brace => '{'

/-- The character behind the content of a group. -/
def right : Delimiter → Char
  | paren => ')'
  | bracket => ']'
  | brace => '}'

lemma next?_left (d : Delimiter) (rest : List Char) :
    Lexeme.next? (d.left :: rest) = some (.opening d, rest) := by
  cases d <;> rfl

lemma next?_right (d : Delimiter) (rest : List Char) :
    Lexeme.next? (d.right :: rest) = some (.closing d, rest) := by
  cases d <;> rfl

lemma atBoundary_right (d : Delimiter) (rest : List Char) : AtBoundary (d.right :: rest) := by
  rw [atBoundary_cons]
  cases d <;> decide

end Delimiter

namespace TokenTree

lemma lexes_group (d : Delimiter) {cs : List Char} {code : List Token} (h : Lexes cs code) :
    Lexes (d.left :: (cs ++ [d.right])) [Token.delimited d code] := by
  intro rest hrest s hs
  rw [List.cons_append, List.append_assoc, List.singleton_append] at hs
  -- the opening delimiter puts the trees so far on the stack of open groups
  obtain ⟨t, first, ht, htframes, htdone, httrees⟩ := ScanState.exists_step hs (d.next?_left _)
    (Nat.lt_succ_self _) (fun span => ⟨d, span.start, s.done⟩ :: s.frames) (fun _ => [])
    (fun _ _ => by cases s.frames <;> rfl)
  obtain ⟨u, hu, hutrees, huframes, placed, hplaced, hudone⟩ :=
    h (d.right :: rest) (d.atBoundary_right rest) t ht
  -- the closing delimiter finds its own group on top of the stack
  obtain ⟨v, last, hv, hvframes, hvdone, hvtrees⟩ :=
    ScanState.exists_step hu (d.next?_right rest)
    (Nat.lt_succ_self _) (fun _ => s.frames)
    (fun span => .group ⟨first.start, span.stop⟩ d u.done.reverse :: s.done)
    (fun span later => by rw [huframes, htframes, assemble?, if_pos rfl])
  refine ⟨v, hv, hvtrees.trans (hutrees.trans httrees), hvframes,
    [.group ⟨first.start, last.stop⟩ d placed], ?_, ?_⟩
  · simp [forget, hplaced, Token.delimited]
  · rw [hvdone, hudone, htdone, List.append_nil, List.reverse_reverse]
    rfl

end TokenTree

/-! ### Legible code -/

open TokenTree

/-- Code that can be read again when it is printed: names, literals that are cut off whole,
operators, and groups of such code. -/
inductive Legible : List Token → Prop
  | nil : Legible []
  | name {name : String} {ts : List Token} (hname : Lexeme.IsIdent name) (hts : Legible ts) :
    Legible (.word name :: ts)
  | literal {text : String} {ts : List Token} (htext : IsWhole text) (hts : Legible ts) :
    Legible (.lit text :: ts)
  | operator {cs : List Char} {ts : List Token} (hne : cs ≠ [])
    (hcs : ∀ c ∈ cs, c ∈ Lexeme.operatorChars) (hts : Legible ts) :
    Legible (Token.operatorChars cs ++ ts)
  | group (d : Delimiter) {inner ts : List Token} (hinner : Legible inner) (hts : Legible ts) :
    Legible (.delimited d inner :: ts)

namespace Legible

lemma append {ts us : List Token} (hts : Legible ts) (hus : Legible us) :
    Legible (ts ++ us) := by
  induction hts with
  | nil => exact hus
  | name hname _ ih => exact .name hname ih
  | literal htext _ ih => exact .literal htext ih
  | operator hne hcs _ ih =>
    rw [List.append_assoc]
    exact .operator hne hcs ih
  | group d hinner _ _ ih => exact .group d hinner ih

lemma flatMap {β : Type} {xs : List β} {code : β → List Token} (h : ∀ x ∈ xs, Legible (code x)) :
    Legible (xs.flatMap code) := by
  induction xs with
  | nil => exact .nil
  | cons x xs ih =>
    rw [List.flatMap_cons]
    exact (h x List.mem_cons_self).append (ih fun y hy => h y (List.mem_cons_of_mem x hy))

lemma ofName {name : String} (h : Lexeme.IsIdent name) : Legible [.word name] := .name h .nil

lemma punct {c : Char} {ts : List Token} (hc : c ∈ Lexeme.operatorChars) (hts : Legible ts) :
    Legible (.punct () c .alone :: ts) :=
  .operator (List.cons_ne_nil c []) (fun _ hd => List.mem_singleton.mp hd ▸ hc) hts

lemma ofDelimited (d : Delimiter) {inner : List Token} (h : Legible inner) :
    Legible [.delimited d inner] := .group d h .nil

lemma ofOperatorChars {cs : List Char} (h : ∀ c ∈ cs, c ∈ Lexeme.operatorChars) :
    Legible (Token.operatorChars cs) := by
  cases cs with
  | nil => exact .nil
  | cons c cs =>
    rw [← List.append_nil (Token.operatorChars _)]
    exact .operator (List.cons_ne_nil c cs) h .nil

lemma ofOperator (text : String)
    (h : (text.toList.all fun c => c ∈ Lexeme.operatorChars) = true := by decide) :
    Legible (Token.operator text) := ofOperatorChars (forall_mem_of_all h)

end Legible

/-- Is this an operator, or a name that begins with a letter or an underscore? -/
def isLegibleWord : List Char → Bool
  | [] => true
  | c :: cs =>
    (c :: cs).all Lexeme.operatorChars.contains ||
      ((c.isAlphanum || c = '_') && Text.isIdentStart c && cs.all Text.isIdentContinue)

lemma legible_ofWord {w : List Char} (h : isLegibleWord w = true) :
    Legible (Token.ofWord w) := by
  have hplain : ∀ c ∈ Lexeme.operatorChars, c ≠ '\'' ∧ (c.isAlphanum || c = '_') = false :=
    forall_mem_of_all (by decide)
  cases w with
  | nil => exact .nil
  | cons c cs =>
    rw [isLegibleWord, Bool.or_eq_true, Bool.and_eq_true, Bool.and_eq_true, List.all_eq_true,
      List.all_eq_true] at h
    rcases h with hchars | ⟨⟨hword, hc⟩, hcs⟩
    · simp only [List.contains_eq_mem, decide_eq_true_eq] at hchars
      obtain ⟨hquote, hword⟩ := hplain c (hchars c List.mem_cons_self)
      have hoperator : Token.ofWord (c :: cs) = Token.operatorChars (c :: cs) := by
        simp_all [Token.ofWord]
      rw [hoperator]
      exact .ofOperatorChars hchars
    · have hquote : c ≠ '\'' := Lexeme.ne_of_isIdentStart hc rfl
      have hname : Token.ofWord (c :: cs) = [.word (String.ofList (c :: cs))] := by
        simp_all [Token.ofWord]
      rw [hname]
      exact .ofName (Lexeme.isIdent_ofList hc hcs)

lemma legible_words (text : String)
    (h : (text.toList.splitOn ' ').all isLegibleWord = true := by decide +kernel) :
    Legible (Token.words text) :=
  .flatMap fun w hw => legible_ofWord (List.all_eq_true.mp h w hw)

namespace TokenTree

lemma charsAll_operator {cs : List Char} (hne : cs ≠ []) (ts : List Token) :
    charsAll true (Token.operatorChars cs ++ ts) = cs ++ charsAll false ts := by
  induction cs with
  | nil => exact absurd rfl hne
  | cons c cs ih =>
    cases cs with
    | nil => simp [Token.operatorChars, charsAll, chars, gluesNext]
    | cons d cs =>
      simp [Token.operatorChars, charsAll, chars, gluesNext, ih (List.cons_ne_nil d cs)]

lemma charsAll_cons_of_not_gluesNext {t : Token} (h : t.gluesNext = false) (ts : List Token) :
    charsAll true (t :: ts) = t.chars ++ charsAll false ts := by
  simp [charsAll, h]

lemma charsAll_false_cons (t : Token) (ts : List Token) :
    charsAll false (t :: ts) = ' ' :: charsAll true (t :: ts) := by
  simp [charsAll]

/-- Code behind other code begins with a space. -/
lemma atBoundary_charsAll (ts : List Token) {rest : List Char} (hrest : AtBoundary rest) :
    AtBoundary (charsAll false ts ++ rest) := by
  cases ts with
  | nil => simpa [charsAll] using hrest
  | cons t ts =>
    rw [charsAll_false_cons, List.cons_append, atBoundary_cons]
    decide

/-- Code may follow a text that ends before a boundary. -/
lemma Lexes.append_code {cs : List Char} {code ts : List Token} (h : Lexes cs code)
    (hts : Lexes (charsAll true ts) ts) : Lexes (cs ++ charsAll false ts) (code ++ ts) := by
  refine h.append ?_ fun rest hrest => atBoundary_charsAll ts hrest
  cases ts with
  | nil => simpa [charsAll] using lexes_nil
  | cons t ts =>
    rw [charsAll_false_cons]
    exact lexes_space hts

/-- A group is scanned as one, whatever space its delimiters keep from the content. -/
lemma lexes_delimited (d : Delimiter) {inner : List Token}
    (h : Lexes (charsAll true inner) inner) :
    Lexes (chars (Token.delimited d inner)) [Token.delimited d inner] := by
  have hspace : Lexes [' '] [] := lexes_space lexes_nil
  rw [Token.delimited, chars]
  cases d with
  | paren => exact lexes_group .paren h
  | bracket => exact lexes_group .bracket h
  | brace =>
    cases inner with
    | nil => exact lexes_group .brace hspace
    | cons t ts =>
      have hinner := h.append hspace fun rest _ => atBoundary_cons.mpr (by decide)
      rw [List.append_nil] at hinner
      have hgroup := lexes_group .brace (lexes_space hinner)
      rw [List.cons_append, List.append_assoc] at hgroup
      exact hgroup

end TokenTree

/-- Legible code is printed as a text that is scanned as the code. -/
theorem Legible.lexes {ts : List Token} (h : Legible ts) : Lexes (charsAll true ts) ts := by
  induction h with
  | nil => simpa [charsAll] using lexes_nil
  | name hname hts ih =>
    rw [charsAll_cons_of_not_gluesNext rfl]
    exact (lexes_name hname).append_code ih
  | literal htext hts ih =>
    rw [charsAll_cons_of_not_gluesNext rfl]
    exact (lexes_literal htext).append_code ih
  | operator hne hcs hts ih =>
    rw [charsAll_operator hne]
    exact (lexes_operator hcs).append_code ih
  | group d hinner hts ihinner ih =>
    rw [charsAll_cons_of_not_gluesNext rfl]
    exact (lexes_delimited d ihinner).append_code ih

/-- No lexeme begins with a byte order mark. -/
lemma Lexeme.next?_byteOrderMark (rest : List Char) :
    Lexeme.next? ('\uFEFF' :: rest) = none := by
  have hname : Text.isIdentStart '\uFEFF' = false := by decide +kernel
  have hread : Literal.read? ('\uFEFF' :: rest) = none := rfl
  have hpunct : Lexeme.punctuation? '\uFEFF' rest = none := rfl
  rw [Lexeme.next?_eq_leaf? rest (by decide) (by decide)]
  simp [Lexeme.leaf?, hread, hpunct, Lexeme.splitName?, Literal.splitIdent?, hname]

/-- Legible code that is printed and scanned is the same code, at the places of its printed
form. -/
theorem Legible.lex?_printTokens {ts : List Token} (h : Legible ts) :
    ∃ trees, TokenTree.lex? (printTokens ts) = some trees ∧ trees.map forget = ts := by
  let start : ScanState :=
    ⟨charsAll true ts, Position.start, [], [], (charsAll true ts).length, Nat.le_refl _⟩
  obtain ⟨t, ht, htrees, hframes, placed, hplaced, hdone⟩ :=
    h.lexes [] atBoundary_nil start (List.append_nil _).symm
  have hend : start.trees? = some placed := by
    rw [← htrees, ScanState.trees?, ht, hframes, hdone]
    simp [Lexeme.scanFrom?, assemble?, start]
  have hmark : ∀ rest, charsAll true ts ≠ '\uFEFF' :: rest := by
    intro rest hmark
    simp [start, ScanState.trees?, hmark, Lexeme.scanFrom?, Lexeme.next?_byteOrderMark] at hend
  refine ⟨placed, ?_, hplaced⟩
  rw [TokenTree.lex?, printTokens, String.toList_ofList, ← hend, Lexeme.scan?]
  · rfl
  · exact hmark

/-! ### Identifiers of a source -/

namespace TokenTree

/-- Every identifier in the tree is spelled as one. -/
inductive WellSpelled {α : Type} : TokenTree α → Prop where
  | ident (m : α) {name : String} (h : Lexeme.IsIdent name) : WellSpelled (.ident m name)
  | punct (m : α) (c : Char) (spacing : Spacing) : WellSpelled (.punct m c spacing)
  | literal (m : α) (text : String) : WellSpelled (.literal m text)
  | group (m : α) (d : Delimiter) {inner : List (TokenTree α)} (h : ∀ t ∈ inner, WellSpelled t) :
    WellSpelled (.group m d inner)

lemma wellSpelled_docAttribute (span : Span) (inner : Bool) (body : String) :
    ∀ t ∈ docAttribute span inner body, t.WellSpelled := by
  have hdoc : Lexeme.IsIdent "doc" := by decide +kernel
  have hgroup :
      ∀ t ∈ [.ident span "doc", .punct span '=' .alone, .literal span (Text.quoted body)],
      WellSpelled t := by
    simp [WellSpelled.ident span hdoc, WellSpelled.punct, WellSpelled.literal]
  cases inner <;> simp [docAttribute, WellSpelled.punct, WellSpelled.group span .bracket hgroup]

/-- Trees are assembled from the identifiers of their lexemes. -/
lemma wellSpelled_of_assemble? {lexemes : List (Lexeme × Span)} {frames : List Frame}
    {done trees : List (TokenTree Span)} (h : assemble? frames done lexemes = some trees)
    (hlexemes : ∀ l ∈ lexemes, l.1.WellSpelled)
    (hframes : ∀ frame ∈ frames, ∀ t ∈ frame.before, t.WellSpelled)
    (hdone : ∀ t ∈ done, t.WellSpelled) : ∀ t ∈ trees, t.WellSpelled := by
  fun_induction assemble? frames done lexemes with
  | case1 done =>
    -- the end of the source
    cases h
    simpa using hdone
  | case2 => cases h
  | case3 frames done span rest name ih =>
    obtain ⟨hname, hrest⟩ := List.forall_mem_cons.mp hlexemes
    exact ih h hrest hframes (List.forall_mem_cons.mpr ⟨.ident span hname, hdone⟩)
  | case4 frames done span rest c spacing ih =>
    obtain ⟨-, hrest⟩ := List.forall_mem_cons.mp hlexemes
    exact ih h hrest hframes (List.forall_mem_cons.mpr ⟨.punct span c spacing, hdone⟩)
  | case5 frames done span rest text ih =>
    obtain ⟨-, hrest⟩ := List.forall_mem_cons.mp hlexemes
    exact ih h hrest hframes (List.forall_mem_cons.mpr ⟨.literal span text, hdone⟩)
  | case6 frames done span rest inner body ih =>
    obtain ⟨-, hrest⟩ := List.forall_mem_cons.mp hlexemes
    refine ih h hrest hframes (List.forall_mem_append.mpr ⟨?_, hdone⟩)
    simpa using wellSpelled_docAttribute span inner body
  | case7 frames done span rest ih =>
    exact ih h (List.forall_mem_cons.mp hlexemes).2 hframes hdone
  | case8 frames done span rest d ih =>
    -- the trees before a group wait on the stack
    refine ih h (List.forall_mem_cons.mp hlexemes).2 ?_ (by simp)
    exact List.forall_mem_cons.mpr ⟨hdone, hframes⟩
  | case9 => cases h
  | case10 done span rest frame outer ih =>
    obtain ⟨hbefore, houter⟩ := List.forall_mem_cons.mp hframes
    refine ih h (List.forall_mem_cons.mp hlexemes).2 houter
      (List.forall_mem_cons.mpr ⟨.group _ _ ?_, hbefore⟩)
    simpa using hdone
  | case11 => cases h

lemma wellSpelled_of_scanFrom? {bound : Nat} {here : Position} {cs : List Char}
    {lexemes : List (Lexeme × Span)} (h : Lexeme.scanFrom? bound here cs = some lexemes) :
    ∀ l ∈ lexemes, l.1.WellSpelled := by
  induction bound generalizing here cs lexemes with
  | zero =>
    cases cs with
    | nil =>
      cases h
      simp
    | cons c cs => cases h
  | succ bound ih =>
    cases cs with
    | nil =>
      cases h
      simp
    | cons c cs =>
      unfold Lexeme.scanFrom? at h
      split at h
      · cases h
      · rename_i lexeme rest hnext
        obtain ⟨later, hlater, rfl⟩ := Option.map_eq_some_iff.mp h
        exact List.forall_mem_cons.mpr ⟨Lexeme.wellSpelled_of_next? hnext, ih hlater⟩

/-- Every identifier of a source is spelled as one. -/
theorem wellSpelled_of_lex? {source : String} {trees : List (TokenTree Span)}
    (h : lex? source = some trees) : ∀ t ∈ trees, t.WellSpelled := by
  obtain ⟨lexemes, hscan, htrees⟩ := Option.bind_eq_some_iff.mp h
  refine wellSpelled_of_assemble? htrees ?_ (by simp) (by simp)
  unfold Lexeme.scan? at hscan
  split at hscan
  · exact wellSpelled_of_scanFrom? hscan
  · exact wellSpelled_of_scanFrom? hscan

/-- An identifier of a source is a name unless it is a keyword. -/
lemma WellSpelled.exists_name {α : Type} {m : α} {text : String}
    (h : WellSpelled (.ident m text)) (hfree : Keyword.isReserved text = false) :
    ∃ name : Name, name.text = text := by
  cases h with
  | ident _ hident => exact ⟨⟨text, hident, hfree⟩, rfl⟩

end TokenTree

end FallbackEnum
