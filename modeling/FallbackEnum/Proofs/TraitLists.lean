import FallbackEnum.Proofs.Stripping

/-!
# Lists of traits in code

What is left of a list of traits is put together from its paths, and the traits that it derives
are these paths. Its code is read as the same list if no path has generic arguments. So an enum
that derives such traits derives the same ones before and after its lists are spelled out.
-/

namespace FallbackEnum

/-! ### Reading paths -/

namespace Grammar

/-- No further segment and no generic arguments of a path stand in front. -/
structure AtPathEnd (ts : Ahead Unit) : Prop where
  colons : atOp "::" ts = false
  angle : atOp "<" ts = false

/-- The code of further segments, each behind `::`. -/
def segmentsCode (segments : List PathSegment) : List Token :=
  segments.flatMap fun segment => Token.operator "::" ++ segment.tokens

variable {g : Rules Unit}

lemma pathSegment_of_none {segment : PathSegment} (harguments : segment.arguments = none)
    {rest : List Token} (hangle : atOp "<" rest = false)
    (hcolons : (atOp "::" rest && atOp "<" (rest.drop 2)) = false) :
    pathSegment g false (segment.tokens ++ rest) = some (segment, rest) := by
  obtain ⟨name, hname, arguments⟩ := segment
  cases harguments
  have hread :
      pathName (Token.word name :: rest) = some ({ name, isPathName := hname }, rest) := by
    simp [pathName, Token.word, hname]
  have htokens : (PathSegment.mk name hname none).tokens ++ rest = Token.word name :: rest := rfl
  rw [htokens, pathSegment, bind_of_some hread, get_bind]
  simp only [hangle, hcolons, Bool.not_false, Bool.false_and, Bool.and_false, Bool.or_self,
    Bool.false_eq_true, if_false, ite_self]
  rfl

lemma op_colons (rest : List Token) :
    op "::" (Token.operator "::" ++ rest) = some (Token.operator "::", rest) := rfl

/-- In a path without generic arguments, a segment is read up to the next one. -/
lemma pathSegment_append {segment : PathSegment} (harguments : segment.arguments = none)
    {rest : List Token} (hrest : AtPathEnd rest) (segments : List PathSegment) :
    pathSegment g false (segment.tokens ++ (segmentsCode segments ++ rest)) =
      some (segment, segmentsCode segments ++ rest) := by
  cases segments with
  | nil =>
    exact pathSegment_of_none harguments hrest.angle (by simp [segmentsCode, hrest.colons])
  | cons next segments => exact pathSegment_of_none harguments rfl rfl

/-- Segments behind `::` are read up to the end of the path. -/
lemma repeatUpTo_segments {segments : List PathSegment}
    (harguments : ∀ segment ∈ segments, segment.arguments = none) {rest : List Token}
    (hrest : AtPathEnd rest) {bound : Nat} (hbound : segments.length ≤ bound) :
    repeatUpTo atSegment (do let _ ← op "::"; pathSegment g false) bound
        (segmentsCode segments ++ rest) =
      some (segments, rest) := by
  induction segments generalizing bound with
  | nil => exact repeatUpTo_stop (by simp [segmentsCode, atSegment, hrest.colons]) _ _
  | cons segment segments ih =>
    obtain ⟨hfirst, hothers⟩ := List.forall_mem_cons.mp harguments
    cases bound with
    | zero => exact absurd hbound (Nat.not_succ_le_zero _)
    | succ bound =>
      refine repeatUpTo_step rfl ?_ (ih hothers (Nat.le_of_succ_le_succ hbound))
      rw [segmentsCode, List.flatMap_cons, List.append_assoc, List.append_assoc,
        bind_of_some (op_colons _)]
      exact pathSegment_append hfirst hrest segments

lemma length_le_segmentsCode (segments : List PathSegment) :
    segments.length ≤ (segmentsCode segments).length := by
  induction segments with
  | nil => exact Nat.zero_le _
  | cons segment segments ih =>
    simp only [segmentsCode, List.flatMap_cons, List.length_append, List.length_cons,
      PathSegment.tokens] at ih ⊢
    omega

/-- A path without generic arguments is read up to its end. -/
lemma path_of_isPlain {path : TraitPath} (hplain : path.isPlain = true) {rest : List Token}
    (hrest : AtPathEnd rest) : Grammar.path g false (path.code ++ rest) = some (path, rest) := by
  obtain ⟨leading, first, segments⟩ := path
  have hleading : optOp "::" ((TraitPath.mk leading first segments).code ++ rest) =
      some (if leading then Token.operator "::" else [],
        first.tokens ++ (segmentsCode segments ++ rest)) := by
    rw [TraitPath.code, List.append_assoc, List.append_assoc]
    cases leading <;> rfl
  simp only [TraitPath.isPlain, TraitPath.segments, List.all_cons, Bool.and_eq_true,
    Option.isNone_iff_eq_none, List.all_eq_true] at hplain
  obtain ⟨hfirst, hothers⟩ := hplain
  have hbound : segments.length ≤ (segmentsCode segments ++ rest).length :=
    Nat.le_trans (length_le_segmentsCode segments) (by simp)
  rw [Grammar.path, bind_of_some hleading,
    bind_of_some (pathSegment_append hfirst hrest segments)]
  have hsegments := repeatUpTo_segments (g := g) hothers hrest hbound
  rw [bind_of_some (show repeatWhile _ _ _ = _ from hsegments)]
  cases leading <;> rfl

lemma code_ne_nil (path : TraitPath) : path.code ≠ [] := by
  simp [TraitPath.code, PathSegment.tokens]

lemma isEmpty_code_append (path : TraitPath) (rest : List Token) :
    (path.code ++ rest).isEmpty = false := by
  simp [code_ne_nil]

lemma commaSeparated_code_cons (path next : TraitPath) (paths : List TraitPath) :
    commaSeparated false ((path :: next :: paths).map TraitPath.code) =
      path.code ++ Token.operator "," ++
        commaSeparated false ((next :: paths).map TraitPath.code) := rfl

/-- Paths without generic arguments are read from their list. -/
lemma separatedUpTo_paths {paths : List TraitPath} (hplain : ∀ path ∈ paths, path.isPlain = true)
    {bound : Nat} (hbound : paths.length ≤ bound) :
    separatedUpTo List.isEmpty "," (Grammar.path g false) bound
        (commaSeparated false (paths.map TraitPath.code)) =
      some (⟨paths, false⟩, []) := by
  induction paths generalizing bound with
  | nil => exact separatedUpTo_stop rfl _ _ _
  | cons path paths ih =>
    obtain ⟨hfirst, hothers⟩ := List.forall_mem_cons.mp hplain
    cases bound with
    | zero => exact absurd hbound (Nat.not_succ_le_zero _)
    | succ bound =>
      cases paths with
      | nil =>
        exact separatedUpTo_last (isEmpty_code_append path _) (path_of_isPlain hfirst ⟨rfl, rfl⟩)
          rfl bound
      | cons next paths =>
        have hrest := ih hothers (Nat.le_of_succ_le_succ hbound)
        have hend : AtPathEnd (Token.operator "," ++
            commaSeparated false ((next :: paths).map TraitPath.code)) := ⟨rfl, rfl⟩
        rw [commaSeparated_code_cons, List.append_assoc]
        exact separatedUpTo_step (isEmpty_code_append path _) (path_of_isPlain hfirst hend) rfl
          rfl hrest

lemma length_le_commaSeparated (paths : List TraitPath) :
    paths.length ≤ (commaSeparated false (paths.map TraitPath.code)).length := by
  induction paths with
  | nil => exact Nat.zero_le _
  | cons path paths ih =>
    have hcode := List.length_pos_of_ne_nil (code_ne_nil path)
    cases paths with
    | nil => simpa [commaSeparated] using Nat.succ_le_of_lt hcode
    | cons next paths =>
      rw [commaSeparated_code_cons, List.length_append, List.length_append]
      simp only [List.length_cons] at ih ⊢
      omega

/-- A list of paths without generic arguments is read from its code. -/
theorem readAll_pathList {paths : List TraitPath}
    (hplain : ∀ path ∈ paths, path.isPlain = true) :
    readAll pathList (commaSeparated false (paths.map TraitPath.code)) = some paths := by
  have hread (g : Rules Unit) : separated List.isEmpty "," g.step.path
      (commaSeparated false (paths.map TraitPath.code)) = some (⟨paths, false⟩, []) :=
    separatedUpTo_paths hplain (length_le_commaSeparated paths)
  rw [readAll, Rules.upTo, pathList, bind_of_some (hread _)]
  rfl

end Grammar

/-! ### Spelling out -/

namespace Attribute

/-- The attribute as its code is read: with a list of traits as arguments. -/
def spelled (attr : Attribute) : Attribute :=
  match attr.body with
  | .traits paths =>
    { attr with body := .list .paren (commaSeparated false (paths.map TraitPath.code)) }
  | _ => attr

/-- The attribute derives no trait with generic arguments. -/
def DerivesPlain (attr : Attribute) : Prop :=
  ∀ path ∈ attr.traits?.getD [], path.isPlain = true

instance (attr : Attribute) : Decidable attr.DerivesPlain :=
  inferInstanceAs (Decidable (∀ path ∈ attr.traits?.getD [], path.isPlain = true))

variable {attr : Attribute}

lemma derivesPlain_iff {paths : List TraitPath} (h : attr.traits? = some paths) :
    attr.DerivesPlain ↔ ∀ path ∈ paths, path.isPlain = true := by
  rw [DerivesPlain, h, Option.getD_some]

@[simp] lemma tokens_spelled (attr : Attribute) : attr.spelled.tokens = attr.tokens := by
  obtain ⟨path, body⟩ := attr
  cases body <;> rfl

@[simp] lemma isNamed_spelled (attr : Attribute) (name : String) :
    attr.spelled.isNamed name = attr.isNamed name := by
  obtain ⟨path, body⟩ := attr
  cases body <;> rfl

/-- The arguments that spell a list of traits are read as the list. -/
lemma traits?_spelled (h : attr.DerivesPlain) : attr.spelled.traits? = attr.traits? := by
  cases hname : attr.isNamed "derive" with
  | false =>
    have hspelled := (isNamed_spelled attr "derive").trans hname
    rw [traits?_of_not_derive hname, traits?_of_not_derive hspelled]
  | true =>
    obtain ⟨path, body⟩ := attr
    cases body with
    | bare => rfl
    | list delimiter arguments => rfl
    | value expr => rfl
    | traits paths =>
      have hput : (Attribute.mk path (.traits paths)).traits? = some paths := if_pos hname
      have hread : (Attribute.mk path (.traits paths)).spelled.traits? =
          Grammar.readAll Grammar.pathList (commaSeparated false (paths.map TraitPath.code)) :=
        if_pos hname
      rw [hput, hread, Grammar.readAll_pathList ((derivesPlain_iff hput).mp h)]

lemma DerivesPlain.stripped? (h : attr.DerivesPlain) {helpers : Bool} {kept : Attribute}
    (hkept : attr.stripped? helpers = some kept) : kept.DerivesPlain := by
  obtain ⟨hkept, -⟩ := Option.filter_eq_some_iff.mp hkept
  cases htraits : attr.traits? with
  | none =>
    rw [withoutDecoding?_of_traits?_eq_none htraits] at hkept
    cases hkept
    exact h
  | some paths =>
    rw [withoutDecoding?_of_traits? htraits] at hkept
    split_ifs at hkept
    cases hkept
    rw [derivesPlain_iff htraits] at h
    rw [derivesPlain_iff (traits?_listing _)]
    exact fun path hpath => h path (List.mem_of_mem_filter hpath)

end Attribute

namespace EnumDecl

/-- The declaration as its code is read: with lists of traits as arguments. -/
def spelled (decl : EnumDecl) : EnumDecl :=
  { decl with attrs := decl.attrs.map Attribute.spelled }

/-- The declaration derives no trait with generic arguments. -/
def DerivesPlain (decl : EnumDecl) : Prop := ∀ attr ∈ decl.attrs, attr.DerivesPlain

instance (decl : EnumDecl) : Decidable decl.DerivesPlain :=
  inferInstanceAs (Decidable (∀ attr ∈ decl.attrs, attr.DerivesPlain))

variable {decl : EnumDecl}

@[simp] lemma tokens_spelled (decl : EnumDecl) : decl.spelled.tokens = decl.tokens := by
  simp [tokens, name, spelled, List.flatMap_map]

/-- Traits without generic arguments are derived before and after they are spelled out. -/
theorem conformances_spelled (h : decl.DerivesPlain) :
    decl.spelled.conformances = decl.conformances := by
  rw [conformances_eq, conformances_eq, spelled, List.flatMap_map]
  refine List.flatMap_congr fun attr hattr => ?_
  rw [Attribute.traitNames, Attribute.traits?_spelled (h attr hattr), Attribute.traitNames]

lemma DerivesPlain.stripDecoding (h : decl.DerivesPlain) : decl.stripDecoding.DerivesPlain := by
  rw [stripDecoding_eq]
  intro kept hkept
  obtain ⟨attr, hattr, hstripped⟩ := List.mem_filterMap.mp hkept
  exact (h attr hattr).stripped? hstripped

lemma DerivesPlain.applied (h : decl.DerivesPlain) (config : Configuration) :
    (decl.applied (decl.generate config)).DerivesPlain := by
  have hextended : (decl.extendedBy (decl.missingFallback? config)).DerivesPlain := by
    cases decl.missingFallback? config <;> exact h
  have huntexted : (decl.extendedBy (decl.missingFallback? config)).dropRawValues.DerivesPlain :=
    fun attr hattr => hextended attr (List.mem_of_mem_filter hattr)
  rw [applied_generate]
  dsimp only
  split_ifs
  · exact huntexted.stripDecoding
  · exact hextended.stripDecoding
  · exact huntexted
  · exact hextended

end EnumDecl

end FallbackEnum
