import FallbackEnum.Proofs.ItemEquality
import FallbackEnum.Proofs.TraitLists

/-!
# One way to decode

The code behind a rendered enum is read again, as a sequence of implementations with their
members. There are three: the one that holds the routine, the lookup, and the conformance, which
only calls the routine. The rendered enum itself derives no decoding, and every other trait as
before. So there is exactly one way to decode its values.
-/

namespace FallbackEnum

/-! ### Reading implementations -/

/-- A function in the code of an implementation. -/
structure FunctionCode where
  name : String
  parameters : List Token
  body : List Token

/-- A member in the code of an implementation. -/
inductive MemberCode where
  | type (name : String)
  | function (f : FunctionCode)

/-- An implementation in code. One without a trait is inherent. -/
structure ImplCode where
  /-- The names in the path of the trait. -/
  trait : List String
  /-- The type that it is for. -/
  target : String
  members : List MemberCode

namespace ImplCode

/-- What is being read between the members of an implementation. -/
inductive Pending where
  | nothing
  | type (name : String)
  | signature (name : String)
  | body (name : String) (parameters : List Token)

/-- Members to the end of the code. Each is a type up to its semicolon or a function up to its
braces, perhaps behind attributes and `pub`. -/
def members? : Pending → List Token → Option (List MemberCode)
  | .nothing, [] => some []
  | .nothing, .punct _ '#' _ :: .group _ .bracket _ :: rest => members? .nothing rest
  | .nothing, .ident _ "pub" :: rest => members? .nothing rest
  | .nothing, .ident _ "type" :: .ident _ name :: rest => members? (.type name) rest
  | .nothing, .ident _ "fn" :: .ident _ name :: rest => members? (.signature name) rest
  | .type name, .punct _ ';' _ :: rest => (members? .nothing rest).map (.type name :: ·)
  | .type name, _ :: rest => members? (.type name) rest
  | .signature name, .group _ .paren parameters :: rest => members? (.body name parameters) rest
  | .signature name, .punct _ _ _ :: rest => members? (.signature name) rest
  | .signature name, .ident _ _ :: rest => members? (.signature name) rest
  | .body name parameters, .group _ .brace body :: rest =>
    (members? .nothing rest).map (.function ⟨name, parameters, body⟩ :: ·)
  | .body name parameters, _ :: rest => members? (.body name parameters) rest
  | _, _ => none

/-- The names of a path up to `for`, outside of angle brackets, and what follows. -/
def traitHead? : Nat → List Token → Option (List String × List Token)
  | 0, .ident _ "for" :: rest => some ([], rest)
  | 0, .ident _ name :: rest =>
    (traitHead? 0 rest).map fun (names, after) => (name :: names, after)
  | depth, .punct _ '<' _ :: rest => traitHead? (depth + 1) rest
  | depth, .punct _ '>' _ :: rest => traitHead? (depth - 1) rest
  | depth, _ :: rest => traitHead? depth rest
  | _, [] => none

/-- The implementation at the front, and what follows. -/
def read? : List Token → Option (ImplCode × List Token)
  | .ident _ "impl" :: .ident _ target :: .group _ .brace inner :: rest =>
    (members? .nothing inner).map fun members => (⟨[], target, members⟩, rest)
  | .ident _ "impl" :: head =>
    match traitHead? 0 head with
    | some (trait, .ident _ target :: .group _ .brace inner :: rest) =>
      (members? .nothing inner).map fun members => (⟨trait, target, members⟩, rest)
    | _ => none
  | _ => none

end ImplCode

/-- The code consists of these implementations, in order. -/
inductive Implementations : List Token → List ImplCode → Prop where
  | nil : Implementations [] []
  | cons {code rest : List Token} {impl : ImplCode} {impls : List ImplCode}
      (hread : ImplCode.read? code = some (impl, rest)) (hrest : Implementations rest impls) :
      Implementations code (impl :: impls)

/-- The function of the enum to which a function passes its parameter on, if it does nothing
else. -/
def FunctionCode.forwardsTo? (f : FunctionCode) : Option String :=
  match f.parameters, f.body with
  | .ident _ parameter :: .punct _ ':' .alone :: .ident _ _ :: [],
    [.ident _ "Self", .punct _ ':' .joint, .punct _ ':' .alone, .ident _ callee,
      .group _ .paren [.ident _ argument]] =>
    if argument = parameter then some callee else none
  | _, _ => none

/-! ### Reading the generated code -/

/-- The enum that a lookup is for. -/
def RawLookup.enumName : RawLookup → String
  | text enumName _ => enumName
  | integer enumName _ => enumName

lemma EnumDecl.enumName_lookup (decl : EnumDecl) (config : Configuration) :
    (decl.lookup config).enumName = decl.name := by
  unfold lookup
  split <;> rfl

namespace ImplCode

lemma read?_inherent (enumName : String) (routine : DecodeRoutine) (rest : List Token) :
    ∃ parameters body, read? ((Declaration.inherent enumName [routine]).tokens ++ rest) =
      some (⟨[], enumName, [.function ⟨"from_decoder", parameters, body⟩]⟩, rest) :=
  ⟨_, _, rfl⟩

lemma read?_lookup (lookup : RawLookup) (rest : List Token) :
    ∃ finding giving, read? (lookup.tokens ++ rest) =
      some (⟨["safe_decode", "RawRepresentable"], lookup.enumName,
        [.type "RawValue", .function finding, .function giving]⟩, rest) := by
  cases lookup <;> exact ⟨_, _, rfl⟩

lemma read?_conformance (conformance : Conformance) (rest : List Token) :
    ∃ f, read? (conformance.tokens ++ rest) =
        some (⟨["safe_decode", "__private", "serde", "Deserialize"], conformance.enumName,
          [.function f]⟩, rest) ∧
      f.name = "deserialize" ∧ f.forwardsTo? = some "from_decoder" :=
  ⟨_, rfl, rfl, rfl⟩

end ImplCode

/-! ### The rendered code -/

lemma isDecodingTrait_eq_false_iff {name : String} :
    isDecodingTrait name = false ↔ name ≠ "Deserialize" ∧ name ≠ "Deserialize_repr" := by
  simp [isDecodingTrait, decodingTraits]

lemma EnumDecl.applied_generate_name (decl : EnumDecl) (config : Configuration) :
    (decl.applied (decl.generate config)).name = decl.name := by
  have hextended : (decl.extendedBy (decl.missingFallback? config)).name = decl.name := by
    cases decl.missingFallback? config <;> rfl
  rw [applied_generate]
  dsimp only
  split_ifs
  · rw [stripDecoding_name]
    exact hextended
  · rw [stripDecoding_name, hextended]
  · exact hextended
  · exact hextended

/-- The implementations of an enum: one that is inherent, its lookup, and its conformance. -/
def ImplCode.generated (enumName : String) (routine finding giving forwarding : FunctionCode) :
    List ImplCode :=
  [{ trait := [], target := enumName, members := [.function routine] },
    { trait := ["safe_decode", "RawRepresentable"], target := enumName
      members := [.type "RawValue", .function finding, .function giving] },
    { trait := ["safe_decode", "__private", "serde", "Deserialize"], target := enumName
      members := [.function forwarding] }]

namespace Rendering

/-- The code behind the enum. -/
def code (r : Rendering) : List Token :=
  (Declaration.inherent r.decl.name [r.routine]).tokens ++
    (r.lookup.tokens ++ r.conformance.tokens)

lemma renderTokens_declarations (r : Rendering) :
    renderTokens r.declarations = r.decl.tokens ++ r.code := by
  simp [renderTokens, declarations, code, Declaration.tokens, Item.tokens]

lemma implementations_code {r : Rendering} {enumName : String} (hdecl : r.decl.name = enumName)
    (hlookup : r.lookup.enumName = enumName) (hconformance : r.conformance.enumName = enumName) :
    ∃ routine finding giving forwarding,
      Implementations r.code (ImplCode.generated enumName routine finding giving forwarding) ∧
      routine.name = "from_decoder" ∧
      forwarding.name = "deserialize" ∧ forwarding.forwardsTo? = some "from_decoder" := by
  obtain ⟨parameters, body, hinherent⟩ := ImplCode.read?_inherent r.decl.name r.routine
    (r.lookup.tokens ++ r.conformance.tokens)
  obtain ⟨finding, giving, hfound⟩ := ImplCode.read?_lookup r.lookup r.conformance.tokens
  obtain ⟨forwarding, hread, hname, hforwards⟩ := ImplCode.read?_conformance r.conformance []
  rw [hdecl] at hinherent
  rw [hlookup] at hfound
  rw [hconformance, List.append_nil] at hread
  refine ⟨⟨"from_decoder", parameters, body⟩, finding, giving, forwarding, ?_, rfl, hname,
    hforwards⟩
  rw [code, hdecl]
  exact .cons hinherent (.cons hfound (.cons hread .nil))

end Rendering

/-- The enum derives the traits of another one in order and as often, but for those that
decode. -/
structure EnumDecl.DerivesOthersOf (after decl : EnumDecl) : Prop where
  noDeserialize : "Deserialize" ∉ after.conformances
  noDeserializeRepr : "Deserialize_repr" ∉ after.conformances
  conformances : after.conformances = decl.conformances.filter fun name =>
    name ≠ "Deserialize" ∧ name ≠ "Deserialize_repr"

namespace EnumDecl

/-- What derives the traits of a rendered enum derives those of the declared one that do not
decode. -/
lemma derivesOthersOf_of_applied {decl after : EnumDecl} {config : Configuration}
    (h : after.conformances = (decl.applied (decl.generate config)).conformances) :
    after.DerivesOthersOf decl := by
  have hfilter : after.conformances = decl.conformances.filter fun name =>
      name ≠ "Deserialize" ∧ name ≠ "Deserialize_repr" := by
    rw [h, conformances_applied]
    refine List.filter_congr fun name _ => ?_
    rw [Bool.eq_iff_iff, Bool.not_eq_true', isDecodingTrait_eq_false_iff, decide_eq_true_eq]
  refine ⟨?_, ?_, hfilter⟩
  · simp [hfilter]
  · simp [hfilter]

end EnumDecl

/-- A rendering is the enum, an implementation that holds only the routine, the lookup, and one
implementation that decodes, which only passes its decoder on to the routine. Read again, the
enum derives no trait that decodes, and all others in order and as often as before. Where no
derived trait has generic arguments, this is so for the code of its lists alone. -/
theorem rendered_decodes_once {item : Item} {args : Arguments}
    (hsuccess : (item.expand args).isSuccess = true) :
    ∃ (decl rendered : EnumDecl) (code : List Token)
      (routine finding giving forwarding : FunctionCode),
      item = .enum decl ∧ rendered.name = decl.name ∧
      (item.render (item.expand args)).length = 4 ∧
      (item.render (item.expand args)).head? = some (.item (.enum rendered)) ∧
      renderTokens (item.render (item.expand args)) = rendered.tokens ++ code ∧
      Implementations code (ImplCode.generated decl.name routine finding giving forwarding) ∧
      routine.name = "from_decoder" ∧
      forwarding.name = "deserialize" ∧ forwarding.forwardsTo? = some "from_decoder" ∧
      (∀ again : EnumDecl, (Item.enum again).Alike (.enum rendered) →
        again.DerivesOthersOf decl) ∧
      ((Item.enum rendered).ReadsBack →
        ∃ again, (Item.enum rendered).reread? = some (.enum again) ∧
          again.DerivesOthersOf decl) ∧
      (decl.DerivesPlain →
        rendered.spelled.tokens = rendered.tokens ∧ rendered.spelled.DerivesOthersOf decl) := by
  obtain ⟨decl, config, rfl, h⟩ := Item.expand_isSuccess_iff.mp hsuccess
  have hname := decl.applied_generate_name config
  obtain ⟨routine, finding, giving, forwarding, himpls, hroutine, hforwarding, hforwards⟩ :=
    Rendering.implementations_code (r := decl.rendering config) hname
      (decl.enumName_lookup config) rfl
  have halike (again : EnumDecl)
      (hagain : (Item.enum again).Alike (.enum (decl.applied (decl.generate config)))) :
      again.DerivesOthersOf decl :=
    EnumDecl.derivesOthersOf_of_applied
      (EnumDecl.conformances_of_unplaced (Item.enum.inj hagain))
  refine ⟨decl, decl.applied (decl.generate config), (decl.rendering config).code, routine,
    finding, giving, forwarding, rfl, hname, ?_, ?_, ?_, himpls, hroutine, hforwarding,
    hforwards, halike, ?_, ?_⟩
  · rw [h.render_eq]
    rfl
  · rw [h.render_eq]
    rfl
  · rw [h.render_eq, Rendering.renderTokens_declarations, EnumDecl.rendering]
  · rintro ⟨item, hreread, hagain⟩
    obtain ⟨again, rfl, -⟩ := hagain.exists_enum
    exact ⟨again, hreread, halike again hagain⟩
  · intro hplain
    refine ⟨EnumDecl.tokens_spelled _, ?_⟩
    exact EnumDecl.derivesOthersOf_of_applied
      (EnumDecl.conformances_spelled (hplain.applied config))

/-- Of five derived traits, three stay, one of them twice. The code of the rendered enum says so
too. -/
theorem annotated_decodes_once :
    ((Item.enum annotated).expand {}).isSuccess = true ∧
      ∃ rendered : EnumDecl,
        ((Item.enum annotated).render ((Item.enum annotated).expand {})).head? =
          some (.item (.enum rendered)) ∧
        rendered.conformances = ["Debug", "Clone", "Debug"] ∧
        rendered.spelled.conformances = ["Debug", "Clone", "Debug"] := by
  have hsuccess : ((Item.enum annotated).expand {}).isSuccess = true := by decide +kernel
  have hconformances : (annotated.conformances.filter fun name =>
      name ≠ "Deserialize" ∧ name ≠ "Deserialize_repr") = ["Debug", "Clone", "Debug"] := by
    decide
  have hplain : annotated.DerivesPlain := by decide
  obtain ⟨_, rendered, -, -, -, -, -, hitem, -, -, hhead, -, -, -, -, -, halike, -, hspelled⟩ :=
    rendered_decodes_once hsuccess
  cases hitem
  refine ⟨hsuccess, rendered, hhead, ?_, ?_⟩
  · rw [(halike rendered (Item.Alike.refl _)).conformances, hconformances]
  · rw [(hspelled hplain).2.conformances, hconformances]

end FallbackEnum
