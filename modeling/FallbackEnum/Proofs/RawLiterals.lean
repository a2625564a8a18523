import FallbackEnum.Proofs.Coherence
import FallbackEnum.Proofs.ItemEquality
import FallbackEnum.Proofs.Places
import FallbackEnum.Proofs.Rescanning
import FallbackEnum.Source

/-!
# Raw literals survive printing

The code of a raw value, of a generated fallback and of a text lookup is legible, so the printed
code is scanned as the code that was printed. The readers of arguments and of variants then find
the raw value in it: every text, and every integer down to the least one, whose magnitude no
64-bit integer has.
-/

namespace FallbackEnum

open TokenTree

/-! ### Trees of known code -/

namespace TokenTree

variable {α : Type} {t : TokenTree α}

lemma exists_ident {name : String} (h : t.forget = .word name) : ∃ m, t = .ident m name := by
  cases t <;> simp_all [forget, Token.word]

lemma exists_literal {text : String} (h : t.forget = .lit text) : ∃ m, t = .literal m text := by
  cases t <;> simp_all [forget, Token.lit]

lemma exists_punct {c : Char} {spacing : Spacing} (h : t.forget = .punct () c spacing) :
    ∃ m, t = .punct m c spacing := by
  cases t <;> simp_all [forget]

lemma exists_group {d : Delimiter} {code : List Token} (h : t.forget = .delimited d code) :
    ∃ m inner, t = .group m d inner ∧ inner.map forget = code := by
  cases t <;> simp_all [forget, Token.delimited]

end TokenTree

/-! ### Raw values -/

namespace RawValue

lemma legible_quoted (text : String) : Legible [.lit (Text.quoted text)] :=
  .literal (fun _ hrest => Lexeme.next?_quoted text hrest) .nil

lemma legible_numeral (n : Nat) : Legible [.lit (Text.numeral n)] :=
  .literal (fun _ hrest => Lexeme.next?_numeral n hrest) .nil

lemma legible_tokens (r : RawValue) : Legible r.tokens := by
  cases r with
  | text s => exact legible_quoted s
  | integer n =>
    rw [tokens]
    split_ifs
    · exact (Legible.ofOperator _).append (legible_numeral _)
    · exact legible_numeral _

lemma tokens_integer (n : Int64) :
    (integer n).tokens = (if n.toInt < 0 then Token.operator "-" else []) ++
      [.lit (Text.numeral n.toInt.natAbs)] := by
  rw [tokens]
  split_ifs <;> rfl

/-- The trees of an integer are its sign, if it has one, and the numeral of its magnitude. -/
lemma exists_integer_trees {α : Type} {n : Int64} {trees : List (TokenTree α)}
    (h : trees.map forget = (integer n).tokens) :
    (n.toInt < 0 ∧ ∃ m m',
      trees = [.punct m '-' .alone, .literal m' (Text.numeral n.toInt.natAbs)]) ∨
      (0 ≤ n.toInt ∧ ∃ m, trees = [.literal m (Text.numeral n.toInt.natAbs)]) := by
  rw [tokens] at h
  split_ifs at h with hsign
  · refine .inl ⟨hsign, ?_⟩
    have hoperator : Token.operator "-" = [.punct () '-' .alone] := rfl
    rw [hoperator] at h
    obtain ⟨sign, rest, rfl, hminus, hrest⟩ := List.map_eq_cons_iff.mp h
    obtain ⟨numeral, rest, rfl, hnumeral, hnil⟩ := List.map_eq_cons_iff.mp hrest
    obtain ⟨m, rfl⟩ := exists_punct hminus
    obtain ⟨m', rfl⟩ := exists_literal hnumeral
    exact ⟨m, m', by rw [List.map_eq_nil_iff.mp hnil]⟩
  · refine .inr ⟨Int.not_lt.mp hsign, ?_⟩
    obtain ⟨numeral, rest, rfl, hnumeral, hnil⟩ := List.map_eq_cons_iff.mp h
    obtain ⟨m, rfl⟩ := exists_literal hnumeral
    exact ⟨m, by rw [List.map_eq_nil_iff.mp hnil]⟩

lemma exists_text_trees {α : Type} {s : String} {trees : List (TokenTree α)}
    (h : trees.map forget = (text s).tokens) : ∃ m, trees = [.literal m (Text.quoted s)] := by
  obtain ⟨literal, rest, rfl, hliteral, hnil⟩ := List.map_eq_cons_iff.mp h
  obtain ⟨m, rfl⟩ := exists_literal hliteral
  exact ⟨m, by rw [List.map_eq_nil_iff.mp hnil]⟩

/-- Every 64-bit integer is in its range. -/
lemma ofInt?_toInt (n : Int64) : ofInt? n.toInt = some (.integer n) := by
  have hrange : Int64.minValue.toInt ≤ n.toInt ∧ n.toInt ≤ Int64.maxValue.toInt :=
    ⟨Int64.minValue_le_toInt n, n.toInt_le⟩
  rw [ofInt?, int64?, if_pos hrange, Int64.ofInt_toInt]
  rfl

end RawValue

/-- The trees of a raw value are read as that value, to their end. -/
lemma Arguments.rawValue?_of_forget {r : RawValue} {trees : List (TokenTree Span)}
    (h : trees.map forget = r.tokens) : Arguments.rawValue? trees = .ok (r, []) := by
  cases r with
  | text s =>
    obtain ⟨m, rfl⟩ := RawValue.exists_text_trees h
    simp [rawValue?, literal, rawValueOf, Literal.value_quoted]
  | integer n =>
    obtain ⟨hsign, m, m', rfl⟩ | ⟨hsign, m, rfl⟩ := RawValue.exists_integer_trees h
    · have hvalue : RawValue.ofInt? (-(n.toInt.natAbs : Int)) = some (.integer n) := by
        rw [Int.ofNat_natAbs_of_nonpos (Int.le_of_lt hsign), Int.neg_neg, RawValue.ofInt?_toInt]
      simp only [rawValue?, literal, rawValueOf, Literal.value_numeral, hvalue]
    · have hvalue : RawValue.ofInt? (n.toInt.natAbs : Int) = some (.integer n) := by
        rw [Int.natAbs_of_nonneg hsign, RawValue.ofInt?_toInt]
      simp only [rawValue?, literal, rawValueOf, Literal.value_numeral, hvalue]

/-! ### Readers of a variant -/

namespace Grammar

variable {α : Type}

/-- A documentation attribute is read as one, and a name ends the attributes. -/
lemma attributes_doc {inner : List (TokenTree α)} {text : String}
    (hinner : inner.map forget = .word "doc" :: Token.operator "=" ++ [.lit text]) (g : Rules α)
    (m m' m'' : α) (name : String) (rest : List (TokenTree α)) :
    attributes g
        (.punct m '#' .alone :: .group m' .bracket inner :: .ident m'' name :: rest) =
      some ([⟨{ segments := ["doc"] }, .value [.lit text]⟩], .ident m'' name :: rest) := by
  obtain ⟨doc, inner, rfl, hdoc, hrest⟩ := List.map_eq_cons_iff.mp hinner
  obtain ⟨equals, inner, rfl, hequals, hrest⟩ := List.map_eq_cons_iff.mp hrest
  obtain ⟨literal, inner, rfl, hliteral, hnil⟩ := List.map_eq_cons_iff.mp hrest
  obtain ⟨m₁, rfl⟩ := exists_ident hdoc
  obtain ⟨m₂, rfl⟩ := exists_punct hequals
  obtain ⟨m₃, rfl⟩ := exists_literal hliteral
  rw [List.map_eq_nil_iff.mp hnil]
  rfl

lemma visibility_ident (m : α) {name : String} (hname : name ≠ "pub")
    (rest : List (TokenTree α)) :
    visibility (.ident m name :: rest) = some (.inherited, .ident m name :: rest) := by
  rw [visibility, get_bind, if_pos (by simp [atWord, hname])]
  rfl

lemma declaredName_ident (m : α) (name : Name) (rest : List (TokenTree α)) :
    declaredName (.ident m name.text :: rest) = some (name, rest) := by
  rw [declaredName, Name.ofText?_text]
  rfl

/-- In trees of a source, what is declared may have any name that is no keyword. -/
theorem declaredName_of_wellSpelled {ts : List (TokenTree α)} (h : ∀ t ∈ ts, t.WellSpelled) :
    (declaredName ts).map (fun (name, rest) => (name.text, rest)) = Grammar.name ts := by
  cases ts with
  | nil => rfl
  | cons t rest =>
    cases t with
    | ident m text =>
      cases hreserved : Keyword.isReserved text with
      | true =>
        have hnoName : ¬ Lexeme.IsName text := fun hname => by simp [hname.2] at hreserved
        have hnone : Name.ofText? text = none := dif_neg hnoName
        simp [declaredName, Grammar.name, hnone, hreserved]
      | false =>
        obtain ⟨name, rfl⟩ := (h _ List.mem_cons_self).exists_name hreserved
        simp [declaredName_ident, Grammar.name, hreserved]
    | punct m c spacing => rfl
    | literal m text => rfl
    | group m d inner => rfl

/-- The code of a raw value is an expression: a literal, or an operator before one. -/
lemma exprCode_rawValue [Placed α] {r : RawValue} {trees : List (TokenTree α)}
    (h : trees.map forget = r.tokens) (depth : Nat) :
    (Rules.upTo (depth + 2)).exprCode true trees = some (r.tokens, []) := by
  cases r with
  | text s =>
    obtain ⟨m, rfl⟩ := RawValue.exists_text_trees h
    rfl
  | integer n =>
    rw [← h]
    obtain ⟨-, m, m', rfl⟩ | ⟨-, m, rfl⟩ := RawValue.exists_integer_trees h
    · rfl
    · rfl

/-- A documented variant with a discriminant is read as such. -/
lemma variant_doc [Placed α] {g : Rules α} {inner value : List (TokenTree α)} {text : String}
    {code : List Token} (ident : Name) (m₁ m₂ m₃ m₄ : α)
    (hinner : inner.map forget = .word "doc" :: Token.operator "=" ++ [.lit text])
    (hvalue : g.exprCode true value = some (code, [])) :
    ∃ span, variant g
        (.punct m₁ '#' .alone :: .group m₂ .bracket inner :: .ident m₃ ident.text ::
          .punct m₄ '=' .alone :: value) =
      some ({
        attrs := [⟨{ segments := ["doc"] }, .value [.lit text]⟩], ident
        discriminant := some code, span }, []) := by
  have hpub : ident.text ≠ "pub" := by
    intro hpub
    have hfree := ident.isName.2
    rw [hpub] at hfree
    exact absurd hfree (by decide)
  have hfields : fields g (.punct m₄ '=' .alone :: value) =
      some (.unit, .punct m₄ '=' .alone :: value) := rfl
  have hat : atOp "=" (.punct m₄ '=' .alone :: value) = true := rfl
  have hequals : op "=" (.punct m₄ '=' .alone :: value) = some (Token.operator "=", value) := rfl
  rw [variant, get_bind, bind_of_some (attributes_doc hinner g m₁ m₂ m₃ ident.text _),
    bind_of_some (visibility_ident m₃ hpub _), get_bind,
    bind_of_some (declaredName_ident m₃ ident _), bind_of_some hfields, get_bind, if_pos hat,
    bind_of_some hequals, bind_of_some hvalue]
  exact ⟨_, rfl⟩

end Grammar

/-! ### Generated fallbacks -/

namespace Configuration

/-- The code of a generated fallback: its documentation, its name, and its raw value. -/
lemma fallbackVariant_tokens (config : Configuration) :
    config.fallbackVariant.tokens =
      .punct () '#' .alone ::
        .delimited .bracket (.word "doc" :: Token.operator "=" ++
          [.lit (Text.quoted "Any raw value that matches no other variant.")]) ::
        .word config.fallbackName.text :: .punct () '=' .alone :: config.fallback.tokens := rfl

lemma legible_fallbackVariant (config : Configuration) :
    Legible config.fallbackVariant.tokens := by
  have hname : Lexeme.IsIdent config.fallbackName.text := config.fallbackName.isName.1
  rw [fallbackVariant_tokens]
  refine .punct (by decide) (.group .bracket ?_ (.name hname (.punct (by decide) ?_)))
  · exact .name (by decide +kernel) (.punct (by decide) (RawValue.legible_quoted _))
  · exact config.fallback.legible_tokens

/-- The trees of a generated fallback are read as that variant, at some place. -/
lemma parse?_fallbackVariant {config : Configuration} {trees : List (TokenTree Span)}
    (hforget : trees.map forget = config.fallbackVariant.tokens) :
    ∃ span, Variant.parse? trees = some { config.fallbackVariant with span } := by
  rw [fallbackVariant_tokens] at hforget
  obtain ⟨hash, _, rfl, hhash, hforget⟩ := List.map_eq_cons_iff.mp hforget
  obtain ⟨doc, _, rfl, hdoc, hforget⟩ := List.map_eq_cons_iff.mp hforget
  obtain ⟨name, _, rfl, hname, hforget⟩ := List.map_eq_cons_iff.mp hforget
  obtain ⟨equals, value, rfl, hequals, hvalue⟩ := List.map_eq_cons_iff.mp hforget
  obtain ⟨m₁, rfl⟩ := exists_punct hhash
  obtain ⟨m₂, inner, rfl, hinner⟩ := exists_group hdoc
  obtain ⟨m₃, rfl⟩ := exists_ident hname
  obtain ⟨m₄, rfl⟩ := exists_punct hequals
  rw [Variant.parse?, Grammar.readAll]
  obtain ⟨span, hvariant⟩ := Grammar.variant_doc config.fallbackName m₁ m₂ m₃ m₄ hinner
    (Grammar.exprCode_rawValue hvalue _)
  refine ⟨span, ?_⟩
  rw [hvariant]
  rfl

/-- A generated fallback that is printed and read again is the same variant, at another place. -/
lemma exists_reread_fallbackVariant (config : Configuration) :
    ∃ span, Variant.ofText? (printTokens config.fallbackVariant.tokens) =
      some { config.fallbackVariant with span } := by
  obtain ⟨trees, hlex, hforget⟩ := config.legible_fallbackVariant.lex?_printTokens
  rw [Variant.ofText?, hlex]
  exact parse?_fallbackVariant hforget

end Configuration

/-! ### Text lookups -/

namespace RawLookup

variable {variant enumName : String} {arms : List (String × String)}

lemma legible_selfPath (h : Lexeme.IsIdent variant) : Legible (selfPath variant) :=
  (legible_words _).append (.ofName h)

lemma legible_someSelf (h : Lexeme.IsIdent variant) : Legible (someSelf variant) :=
  (legible_words _).append (.ofDelimited .paren (legible_selfPath h))

lemma legible_arm {pattern result : List Token} (hpattern : Legible pattern)
    (hresult : Legible result) :
    Legible (pattern ++ Token.operator "=>" ++ result ++ Token.operator ",") :=
  ((hpattern.append (.ofOperator _)).append hresult).append (.ofOperator _)

lemma legible_fromTextBody (h : ∀ arm ∈ arms, Lexeme.IsIdent arm.1) :
    Legible (fromTextBody arms) := by
  refine ((legible_words _).append (.ofDelimited .paren .nil)).append (.ofDelimited .brace ?_)
  refine (((Legible.flatMap ?_).append (legible_words _)).append (legible_words _)).append
    (.ofOperator _)
  rintro ⟨variant, value⟩ harm
  exact legible_arm (RawValue.legible_tokens _) (legible_someSelf (h _ harm))

lemma legible_toTextBody (h : ∀ arm ∈ arms, Lexeme.IsIdent arm.1) :
    Legible (toTextBody arms) := by
  refine (((legible_words _).append (.ofDelimited .brace (.flatMap ?_))).append
    (legible_words _)).append (.ofDelimited .paren (legible_words _))
  rintro ⟨variant, value⟩ harm
  exact legible_arm (legible_selfPath (h _ harm)) (RawValue.legible_tokens _)

lemma legible_implementation {scalar fromBody toBody : List Token}
    (hname : Lexeme.IsIdent enumName) (hscalar : Legible scalar) (hfrom : Legible fromBody)
    (hto : Legible toBody) :
    Legible (implementation enumName scalar fromBody toBody) := by
  refine ((legible_words _).append (.ofName hname)).append (.ofDelimited .brace ?_)
  -- the type, the function from raw values, and the function to them
  have htype : Legible (Token.words "type RawValue =" ++ scalar ++
      Token.words "; fn from_raw_value") :=
    ((legible_words _).append hscalar).append (legible_words _)
  have hfinding :=
    ((htype.append (.ofDelimited .paren (legible_words "raw_value : Self :: RawValue")))
      |>.append (legible_words "-> :: core :: option :: Option < Self >"))
      |>.append (.ofDelimited .brace hfrom)
  have hgiving :=
    (hfinding.append (legible_words "fn raw_value")).append
      (.ofDelimited .paren (legible_words "& self"))
  exact (hgiving.append (legible_words _)).append (.ofDelimited .brace hto)

/-- The code of a text lookup is legible if its names are spelled as identifiers. -/
lemma legible_tokens_text (hname : Lexeme.IsIdent enumName)
    (harms : ∀ arm ∈ arms, Lexeme.IsIdent arm.1) : Legible (text enumName arms).tokens := by
  have hscalar : Legible RawKind.text.scalarType := legible_words ":: std :: string :: String"
  exact legible_implementation hname hscalar (legible_fromTextBody harms)
    (legible_toTextBody harms)

/-- The tables in the printed code of a text lookup are those of the lookup. -/
lemma exists_reread_text (hname : Lexeme.IsIdent enumName)
    (harms : ∀ arm ∈ arms, Lexeme.IsIdent arm.1) :
    ∃ trees, TokenTree.lex? (printTokens (text enumName arms).tokens) = some trees ∧
      LookupTables.read? (trees.map forget) = some (text enumName arms).tables := by
  obtain ⟨trees, hlex, hforget⟩ := (legible_tokens_text hname harms).lex?_printTokens
  exact ⟨trees, hlex, by rw [hforget, read?_tokens]⟩

end RawLookup

/-- A lookup that is generated belongs to a configuration. -/
lemma EnumDecl.exists_expands_of_lookup {decl : EnumDecl} {args : Arguments} {lookup : RawLookup}
    (h : ((Item.enum decl).expand args).lookup = some lookup) :
    ∃ config, decl.Expands args config ∧ lookup = decl.lookup config := by
  cases hexpand : (Item.enum decl).expand? args with
  | error d =>
    rw [Item.expand, hexpand] at h
    cases h
  | ok expansion =>
    obtain ⟨_, config, hitem, hexpands, rfl⟩ := Item.expand?_eq_ok_iff.mp hexpand
    cases hitem
    rw [hexpands.expand_eq] at h
    exact ⟨config, hexpands, (Option.some.inj h).symm⟩

/-! ### Reading everything again -/

/-- Raw literals survive printing and reading again, wherever they are written. The code of a raw
value is read as an argument with that value, to its end. A fallback that is added is read as the
same variant, at another place: its text is the text of the configuration, or its discriminant is
no text but the numeral of the magnitude, behind a sign exactly if the integer is negative. In
the code of a text lookup every arm, in both functions, has the text of its variant. -/
theorem raw_literals_reread :
    (∀ r : RawValue, ∃ trees, TokenTree.lex? (printTokens r.tokens) = some trees ∧
      Arguments.rawValue? trees = .ok (r, [])) ∧
    (∀ (decl : EnumDecl) (config : Configuration) (v : Variant),
      decl.missingFallback? config = some v →
      ∃ again, Variant.ofText? (printTokens v.tokens) = some again ∧
        again.unplaced = v.unplaced ∧
        (∀ s, config.fallback = .text s → again.textLiteral? = some s) ∧
        (∀ n, config.fallback = .integer n → again.textLiteral? = none ∧
          again.discriminant = some ((if n.toInt < 0 then Token.operator "-" else []) ++
            [.lit (Text.numeral n.toInt.natAbs)]))) ∧
    (∀ (decl : EnumDecl) (args : Arguments) (lookup : RawLookup),
      ((Item.enum decl).expand args).kind = some .text →
      ((Item.enum decl).expand args).lookup = some lookup →
      ∃ trees tables, TokenTree.lex? (printTokens lookup.tokens) = some trees ∧
        LookupTables.read? (trees.map forget) = some tables ∧
        tables.finding =
          (decl.variants ++ ((Item.enum decl).expand args).fallbackVariant?.toList).map
            (fun v => (some (.text v.textValue), some v.name)) ++ [(none, none)] ∧
        tables.giving =
          (decl.variants ++ ((Item.enum decl).expand args).fallbackVariant?.toList).map
            fun v => (v.name, .text v.textValue)) := by
  refine ⟨?_, ?_, ?_⟩
  · intro r
    obtain ⟨trees, hlex, hforget⟩ := r.legible_tokens.lex?_printTokens
    exact ⟨trees, hlex, Arguments.rawValue?_of_forget hforget⟩
  · intro decl config v hv
    obtain ⟨-, rfl⟩ := EnumDecl.missingFallback?_eq_some_iff.mp hv
    obtain ⟨span, hreread⟩ := config.exists_reread_fallbackVariant
    have hliteral : Variant.textLiteral? { config.fallbackVariant with span } =
        textLiteral? config.fallback.tokens := rfl
    refine ⟨_, hreread, rfl, ?_, ?_⟩
    · intro s hs
      rw [hliteral, hs, textLiteral?_tokens_text]
    · intro n hn
      rw [hliteral, hn, textLiteral?_tokens_integer, ← RawValue.tokens_integer, ← hn]
      exact ⟨rfl, rfl⟩
  · intro decl args lookup hkind hlookup
    obtain ⟨config, h, rfl⟩ := EnumDecl.exists_expands_of_lookup hlookup
    rw [h.expand_eq, EnumDecl.generate_kind, Option.some.injEq] at hkind
    rw [h.expand_eq, EnumDecl.generate_fallbackVariant?, ← EnumDecl.completed]
    have harms : ∀ arm ∈ (decl.completed config).map fun v => (v.name, v.textValue),
        Lexeme.IsIdent arm.1 := by
      intro arm harm
      obtain ⟨v, hv, rfl⟩ := List.mem_map.mp harm
      exact v.ident.isName.1
    obtain ⟨trees, hlex, htables⟩ := RawLookup.exists_reread_text decl.ident.isName.1 harms
    rw [h.lookup_text hkind]
    refine ⟨trees, _, hlex, htables, ?_, ?_⟩
    · simp only [RawLookup.tables, List.map_map]
      rfl
    · simp only [RawLookup.tables, List.map_map]
      rfl

/-- The least integer as a fallback, whose magnitude is out of range, and texts with quotes, NUL,
marks and a name that is not in ASCII. -/
theorem extreme_literals_reread :
    (∃ (v again : Variant),
      Catalog.minFallback.decl.missingFallback?
        ⟨Configuration.defaultName, .integer Int64.minValue, .integer⟩ = some v ∧
      Variant.ofText? (printTokens v.tokens) = some again ∧ again.textLiteral? = none ∧
      again.discriminant = some (Token.operator "-" ++ [.lit "9223372036854775808"])) ∧
    ∃ (lookup : RawLookup) (trees : List (TokenTree Span)) (tables : LookupTables),
      ((Item.enum Catalog.escapes.decl).expand Catalog.escapes.args).lookup = some lookup ∧
      TokenTree.lex? (printTokens lookup.tokens) = some trees ∧
      LookupTables.read? (trees.map forget) = some tables ∧
      tables.giving = [("Empty", .text ""), ("Space", .text " "), ("Newline", .text "a\nb"),
        ("Quote", .text "say \"hi\""), ("Raw", .text "C:\\new\"x\""), ("Nul", .text "\x00"),
        ("Accent", .text "\u00e9"), ("Decomposed", .text "e\u0301"),
        ("Emoji", .text "👩\u200d👩\u200d👧"), ("Continued", .text "one two"),
        ("Straße", .text "STRASSE")] := by
  obtain ⟨-, hfallbacks, hlookups⟩ := raw_literals_reread
  constructor
  · obtain ⟨again, hagain, -, -, hinteger⟩ := hfallbacks Catalog.minFallback.decl
      ⟨Configuration.defaultName, .integer Int64.minValue, .integer⟩ _ rfl
    obtain ⟨hliteral, hdiscriminant⟩ := hinteger Int64.minValue rfl
    exact ⟨_, again, rfl, hagain, hliteral, hdiscriminant.trans (by decide +kernel)⟩
  · have hexpand : Catalog.escapes.decl.Expands Catalog.escapes.args
        ⟨.mk "Straße", .text "STRASSE", .text⟩ :=
      ⟨by decide +kernel, by decide +kernel, by decide +kernel⟩
    obtain ⟨trees, tables, hlex, htables, -, hgiving⟩ := hlookups Catalog.escapes.decl
      Catalog.escapes.args _ (by rw [hexpand.expand_eq]; rfl) (by rw [hexpand.expand_eq]; rfl)
    refine ⟨_, trees, tables, by rw [hexpand.expand_eq]; rfl, hlex, htables, hgiving.trans ?_⟩
    rw [hexpand.expand_eq]
    decide +kernel

end FallbackEnum
