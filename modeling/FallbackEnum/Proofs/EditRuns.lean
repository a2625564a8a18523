import FallbackEnum.Chain
import FallbackEnum.Proofs.Coherence
import FallbackEnum.Proofs.ItemEquality
import FallbackEnum.Proofs.SingleDecoder

/-!
# Runs of edits

An enum that is edited step by step stays an enum of its name, and its variants are only ever
added to, at the end. An expansion adds its fallback at most, whatever raw kinds come and go in
between, and also a step that fails takes nothing away. So the names stay distinct if no step
brings in a name twice.

Each step works on the item as it reads back, which may be the item up to places and spellings.
-/

namespace FallbackEnum

/-! ### What a step adds -/

namespace EnumDecl

/-- The names and fields of the variants. -/
def outlines (decl : EnumDecl) : List (String × Fields) := decl.variants.map Variant.outline

lemma outlines_names (decl : EnumDecl) :
    decl.outlines.map Prod.fst = decl.variants.map Variant.name := by
  rw [outlines, List.map_map]
  rfl

lemma outlines_of_unplaced {decl again : EnumDecl} (h : again.unplaced = decl.unplaced) :
    again.outlines = decl.outlines :=
  Variant.map_eq_of_plain _ (fun _ => rfl) (sameShape_of_unplaced h).variants

end EnumDecl

namespace Item

/-- An expansion adds a fallback exactly if it succeeds and no variant has the name of the
fallback. -/
lemma fallbackVariant?_isSome_iff (decl : EnumDecl) (args : Arguments) :
    ((Item.enum decl).expand args).fallbackVariant?.isSome = true ↔
      ((Item.enum decl).expand args).isSuccess = true ∧
        decl.hasVariant (args.safeCase.getD Configuration.defaultSafeCase) = false := by
  cases hsuccess : ((Item.enum decl).expand args).isSuccess with
  | false => simp [fallbackVariant?_of_not_isSuccess hsuccess]
  | true =>
    obtain ⟨_, config, hitem, h⟩ := expand_isSuccess_iff.mp hsuccess
    cases hitem
    rw [h.expand_eq, EnumDecl.generate_fallbackVariant?, EnumDecl.missingFallback?_isSome,
      h.safeCase_eq]
    simp

/-- The name of an added fallback is new. -/
lemma hasVariant_fallbackVariant? {decl : EnumDecl} {args : Arguments} {v : Variant}
    (hv : ((Item.enum decl).expand args).fallbackVariant? = some v) :
    decl.hasVariant v.name = false := by
  cases hsuccess : ((Item.enum decl).expand args).isSuccess with
  | false =>
    rw [fallbackVariant?_of_not_isSuccess hsuccess] at hv
    cases hv
  | true =>
    obtain ⟨_, config, hitem, h⟩ := expand_isSuccess_iff.mp hsuccess
    cases hitem
    rw [h.expand_eq, EnumDecl.generate_fallbackVariant?] at hv
    obtain ⟨hundeclared, rfl⟩ := EnumDecl.missingFallback?_eq_some_iff.mp hv
    exact hundeclared

/-- The item after an expansion is the enum with the fallback that was added, if there is one. -/
lemma exists_expanded (decl : EnumDecl) (args : Arguments) :
    ∃ after, (Item.enum decl).expanded args = .enum after ∧ after.name = decl.name ∧
      after.outlines = decl.outlines ++
        (((Item.enum decl).expand args).fallbackVariant?.toList.map Variant.outline) := by
  cases hsuccess : ((Item.enum decl).expand args).isSuccess with
  | true =>
    obtain ⟨_, config, hitem, h⟩ := expand_isSuccess_iff.mp hsuccess
    cases hitem
    refine ⟨_, expanded_of_expands h, decl.applied_generate_name config, ?_⟩
    rw [EnumDecl.outlines, EnumDecl.applied_outline, List.map_append, h.expand_eq,
      EnumDecl.outlines]
  | false =>
    rw [expanded_of_not_isSuccess hsuccess, fallbackVariant?_of_not_isSuccess hsuccess, kept]
    simp only [Option.toList_none, List.map_nil, List.append_nil]
    split_ifs
    · exact ⟨_, rfl, rfl, decl.dropRawValues_outline⟩
    · exact ⟨_, rfl, rfl, rfl⟩

lemma fallbackVariant?_of_unplaced {decl again : EnumDecl} (h : again.unplaced = decl.unplaced)
    (args : Arguments) :
    ((Item.enum again).expand args).fallbackVariant? =
      ((Item.enum decl).expand args).fallbackVariant? := by
  have hshape := EnumDecl.sameShape_of_unplaced h
  apply fallbackVariant?_congr hshape.kind hshape.hasVariant
  rw [← isSuccess_unplaced, h, isSuccess_unplaced]

end Item

namespace Edit

/-- The item after an edit. One of an unknown kind changes nothing. -/
def next (item : Item) : Option Edit → Item
  | none => item
  | some edit => (edit.step item).2

/-- The items of a run: the first one, and the one after each edit. -/
def items (start : Item) (edits : List (Option Edit)) : List Item :=
  start :: (runAll start edits).map Prod.snd

/-- The variants that an edit adds to an enum. -/
def added (decl : EnumDecl) : Option Edit → List Variant
  | some (expand source) =>
    match Arguments.ofText source with
    | .ok args => ((Item.enum decl).expand args).fallbackVariant?.toList
    | .error _ => []
  | some (variant source) => (Variant.ofText? source).toList
  | _ => []

lemma step_of_reread {edit : Edit} {item current : Item} (h : item.reread? = some current) :
    (edit.step item).2 =
      match edit.applyTo current with
      | .ok (_, edited) => edited
      | .error _ => current := by
  simp only [step, h]
  cases edit.applyTo current <;> rfl

/-- A step keeps the name of an enum and all of its variants, and what it adds comes behind
them. -/
lemma exists_next {decl : EnumDecl} (hread : (Item.enum decl).ReadsBack) (edit : Option Edit) :
    ∃ after, next (.enum decl) edit = .enum after ∧ after.name = decl.name ∧
      after.outlines = decl.outlines ++ (added decl edit).map Variant.outline := by
  -- The edit works on what was read back, which has the outlines of the declaration.
  obtain ⟨again, hreread, halike⟩ := hread
  obtain ⟨current, rfl, hunplaced⟩ := halike.exists_enum
  have hname : current.name = decl.name := (EnumDecl.sameShape_of_unplaced hunplaced).name
  have houtlines := EnumDecl.outlines_of_unplaced hunplaced
  have hunchanged :
      current.outlines = decl.outlines ++ ([] : List Variant).map Variant.outline :=
    houtlines.trans (List.append_nil _).symm
  cases edit with
  | none => exact ⟨decl, rfl, rfl, (List.append_nil _).symm⟩
  | some edit =>
    rw [next, step_of_reread hreread]
    cases edit with
    | expand source =>
      simp only [applyTo, added]
      cases Arguments.ofText source with
      | error e => exact ⟨current, rfl, hname, hunchanged⟩
      | ok args =>
        obtain ⟨after, hafter, hsame, hadded⟩ := Item.exists_expanded current args
        refine ⟨after, hafter, hsame.trans hname, ?_⟩
        rw [hadded, houtlines, Item.fallbackVariant?_of_unplaced hunplaced]
    | strip =>
      refine ⟨current.stripDecoding, rfl, current.stripDecoding_name.trans hname, ?_⟩
      rw [EnumDecl.outlines, EnumDecl.stripDecoding_outline]
      exact hunchanged
    | attributes source =>
      simp only [applyTo, added]
      cases Attribute.allOfText? source with
      | none => exact ⟨current, rfl, hname, hunchanged⟩
      | some attrs => exact ⟨_, rfl, hname, hunchanged⟩
    | variant source =>
      simp only [applyTo, added]
      cases Variant.ofText? source with
      | none => exact ⟨current, rfl, hname, hunchanged⟩
      | some v =>
        refine ⟨current.push v, rfl, hname, ?_⟩
        rw [← houtlines, EnumDecl.outlines, EnumDecl.push, List.map_append]
        rfl

/-! ### Runs -/

lemma items_cons (start : Item) (edit : Option Edit) (edits : List (Option Edit)) :
    items start (edit :: edits) = start :: items (next start edit) edits := by
  cases edit <;> rfl

lemma items_succ {start before : Item} {edits : List (Option Edit)} {edit : Option Edit}
    {i : Nat} (hbefore : (items start edits)[i]? = some before) (hedit : edits[i]? = some edit) :
    (items start edits)[i + 1]? = some (next before edit) := by
  induction edits generalizing start i with
  | nil => simp at hedit
  | cons first edits ih =>
    rw [items_cons] at hbefore ⊢
    cases i with
    | zero =>
      simp only [List.getElem?_cons_zero, Option.some.injEq] at hbefore hedit
      subst hbefore hedit
      rfl
    | succ i =>
      rw [List.getElem?_cons_succ] at hbefore hedit ⊢
      exact ih hbefore hedit

/-- What holds at first and is kept by every step of a run holds throughout. -/
lemma items_invariant {start : Item} {edits : List (Option Edit)} {P : Item → Prop}
    (hstart : P start)
    (hstep : ∀ (i : Nat) (before : Item) (edit : Option Edit),
      (items start edits)[i]? = some before → edits[i]? = some edit → P before →
        P (next before edit)) :
    ∀ item ∈ items start edits, P item := by
  induction edits generalizing start with
  | nil =>
    intro item hitem
    rw [items, runAll, List.map_nil, List.mem_singleton] at hitem
    exact hitem ▸ hstart
  | cons first edits ih =>
    rw [items_cons] at hstep ⊢
    intro item hitem
    rcases List.mem_cons.mp hitem with rfl | hlater
    · exact hstart
    · -- The later items are a run of their own, whose first item was just reached.
      refine ih (hstep 0 start first rfl rfl hstart) ?_ item hlater
      intro i before edit hbefore hedit
      exact hstep (i + 1) before edit hbefore hedit

/-! ### What is added -/

lemma length_added_le (decl : EnumDecl) (edit : Option Edit) : (added decl edit).length ≤ 1 := by
  unfold added
  split
  · split
    · exact Option.length_toList_le
    · exact Nat.zero_le 1
  · exact Option.length_toList_le
  · exact Nat.zero_le 1

lemma length_added_expand_eq_one_iff {decl : EnumDecl} {source : String} :
    (added decl (some (expand source))).length = 1 ↔
      ∃ args, Arguments.ofText source = .ok args ∧
        ((Item.enum decl).expand args).isSuccess = true ∧
        decl.hasVariant (args.safeCase.getD Configuration.defaultSafeCase) = false := by
  simp only [added]
  cases Arguments.ofText source with
  | error e => simp
  | ok args =>
    have hlength : ((Item.enum decl).expand args).fallbackVariant?.toList.length = 1 ↔
        ((Item.enum decl).expand args).fallbackVariant?.isSome = true := by
      cases ((Item.enum decl).expand args).fallbackVariant? <;> simp
    simp only [hlength, Item.fallbackVariant?_isSome_iff, Except.ok.injEq, exists_eq_left']

/-- What an edit adds has a new name if a variant that is given has one. -/
lemma hasVariant_of_mem_added {decl : EnumDecl} {edit : Option Edit}
    (hgiven : ∀ source v, edit = some (variant source) → Variant.ofText? source = some v →
      decl.hasVariant v.name = false) :
    ∀ v ∈ added decl edit, decl.hasVariant v.name = false := by
  intro v hv
  unfold added at hv
  split at hv
  · split at hv
    · exact Item.hasVariant_fallbackVariant? (Option.mem_toList.mp hv)
    · cases hv
  · exact hgiven _ v rfl (Option.mem_toList.mp hv)
  · cases hv

/-- Names stay distinct if a step adds new names only. -/
lemma nodup_names_of_added {decl after : EnumDecl} {edit : Option Edit}
    (hadded : after.outlines = decl.outlines ++ (added decl edit).map Variant.outline)
    (hnames : (decl.variants.map Variant.name).Nodup)
    (hnew : ∀ v ∈ added decl edit, decl.hasVariant v.name = false) :
    (after.variants.map Variant.name).Nodup := by
  have hafter : after.variants.map Variant.name =
      decl.variants.map Variant.name ++ (added decl edit).map Variant.name := by
    rw [← EnumDecl.outlines_names, hadded, List.map_append, EnumDecl.outlines_names,
      List.map_map]
    rfl
  rw [hafter, List.nodup_append]
  refine ⟨hnames, ?_, ?_⟩
  · have hlength := length_added_le decl edit
    match added decl edit, hlength with
    | [], _ => exact List.nodup_nil
    | [v], _ => exact List.nodup_singleton v.name
  · rintro name hname _ hother rfl
    obtain ⟨v, hv, rfl⟩ := List.mem_map.mp hother
    have hdeclared := EnumDecl.hasVariant_iff.mpr hname
    rw [hnew v hv] at hdeclared
    cases hdeclared

end Edit

/-! ### The invariant -/

section Runs

variable {decl : EnumDecl} {edits : List (Option Edit)}

lemma Edit.items_enum (hread : ∀ item ∈ Edit.items (.enum decl) edits, item.ReadsBack) :
    ∀ item ∈ Edit.items (.enum decl) edits,
      ∃ current, item = .enum current ∧ current.name = decl.name := by
  apply Edit.items_invariant
  · exact ⟨decl, rfl, rfl⟩
  · rintro i _ edit hbefore - ⟨before, rfl, hname⟩
    obtain ⟨after, hafter, hsame, -⟩ :=
      Edit.exists_next (hread _ (List.mem_of_getElem? hbefore)) edit
    exact ⟨after, hafter, hsame.trans hname⟩

/-- From one item of a run to the next, the outlines grow by what the edit adds. -/
lemma Edit.outlines_succ (hread : ∀ item ∈ Edit.items (.enum decl) edits, item.ReadsBack)
    {i : Nat} {before after : EnumDecl} {edit : Option Edit}
    (hbefore : (Edit.items (.enum decl) edits)[i]? = some (.enum before))
    (hafter : (Edit.items (.enum decl) edits)[i + 1]? = some (.enum after))
    (hedit : edits[i]? = some edit) :
    after.outlines = before.outlines ++ (Edit.added before edit).map Variant.outline := by
  obtain ⟨next, hnext, -, hadded⟩ :=
    Edit.exists_next (hread _ (List.mem_of_getElem? hbefore)) edit
  rw [Edit.items_succ hbefore hedit, hnext] at hafter
  cases hafter
  exact hadded

end Runs

/-- Throughout a run of edits that start with an enum, there is an enum of its name. Each step
keeps the names and fields of the variants in their order. An expansion adds at most one variant,
and it adds one exactly if it succeeds and no variant has the name of its fallback. The other
edits add none, apart from the one that is there for this. So names that are distinct at first
stay so, unless that one is given a name that there is. -/
theorem runAll_keeps_variants {decl : EnumDecl} {edits : List (Option Edit)}
    (hread : ∀ item ∈ Edit.items (.enum decl) edits, item.ReadsBack) :
    (∀ item ∈ Edit.items (.enum decl) edits,
      ∃ current, item = .enum current ∧ current.name = decl.name) ∧
    (∀ (i : Nat) (before after : EnumDecl) (edit : Option Edit),
      (Edit.items (.enum decl) edits)[i]? = some (.enum before) →
      (Edit.items (.enum decl) edits)[i + 1]? = some (.enum after) → edits[i]? = some edit →
        before.outlines <+: after.outlines ∧
        (∀ source, edit = some (.expand source) →
          after.variants.length ≤ before.variants.length + 1 ∧
          (after.variants.length = before.variants.length + 1 ↔
            ∃ args, Arguments.ofText source = .ok args ∧
              ((Item.enum before).expand args).isSuccess = true ∧
              before.hasVariant (args.safeCase.getD Configuration.defaultSafeCase) = false)) ∧
        (edit = none ∨ edit = some .strip ∨ (∃ source, edit = some (.attributes source)) →
          after.outlines = before.outlines)) ∧
    ((decl.variants.map Variant.name).Nodup →
      (∀ (i : Nat) (before : EnumDecl) (source : String) (v : Variant),
        (Edit.items (.enum decl) edits)[i]? = some (.enum before) →
        edits[i]? = some (some (.variant source)) → Variant.ofText? source = some v →
          before.hasVariant v.name = false) →
      ∀ current, Item.enum current ∈ Edit.items (.enum decl) edits →
        (current.variants.map Variant.name).Nodup) := by
  refine ⟨Edit.items_enum hread, ?_, ?_⟩
  · intro i before after edit hbefore hafter hedit
    have hadded := Edit.outlines_succ hread hbefore hafter hedit
    refine ⟨hadded ▸ List.prefix_append _ _, ?_, ?_⟩
    · rintro source rfl
      have hlength : after.variants.length =
          before.variants.length + (Edit.added before (some (.expand source))).length := by
        simpa [EnumDecl.outlines] using congrArg List.length hadded
      rw [hlength, Nat.add_left_cancel_iff, Edit.length_added_expand_eq_one_iff]
      exact ⟨Nat.add_le_add_left (Edit.length_added_le _ _) _, Iff.rfl⟩
    · rintro (rfl | rfl | ⟨source, rfl⟩)
      all_goals exact hadded.trans (List.append_nil _)
  · intro hnames hnew current hcurrent
    have hinvariant : ∀ item ∈ Edit.items (.enum decl) edits, ∃ current, item = .enum current ∧
        (current.variants.map Variant.name).Nodup := by
      apply Edit.items_invariant
      · exact ⟨decl, rfl, hnames⟩
      · rintro i _ edit hbefore hedit ⟨before, rfl, hdistinct⟩
        obtain ⟨after, hafter, -, hadded⟩ :=
          Edit.exists_next (hread _ (List.mem_of_getElem? hbefore)) edit
        refine ⟨after, hafter, Edit.nodup_names_of_added hadded hdistinct ?_⟩
        apply Edit.hasVariant_of_mem_added
        rintro source v rfl hv
        exact hnew i before source v hbefore hedit hv
    obtain ⟨_, hitem, hdistinct⟩ := hinvariant _ hcurrent
    cases hitem
    exact hdistinct

/-- An enum with one variant. -/
def exitCode : EnumDecl :=
  { attrs := [Catalog.reprAttribute .integer]
    ident := { text := "Code" }
    variants := [Catalog.bare "Up"] }

/-- The enum with a second variant. Each is at the place where it was read. -/
def exitCodeExtended : EnumDecl :=
  { exitCode with
    variants := [
      { Catalog.bare "Up" with span := ⟨⟨1, 27⟩, ⟨1, 29⟩⟩ },
      { Catalog.bare "Spare" with span := ⟨⟨1, 0⟩, ⟨1, 5⟩⟩ }]
    span := ⟨⟨1, 0⟩, ⟨1, 31⟩⟩ }

/-- The enum with a second variant and its fallback. -/
def exitCodeExpanded : EnumDecl :=
  { exitCode with
    variants := [
      { Catalog.bare "Up" with span := ⟨⟨1, 27⟩, ⟨1, 29⟩⟩ },
      { Catalog.bare "Spare" with span := ⟨⟨1, 32⟩, ⟨1, 37⟩⟩ },
      Catalog.unknown]
    span := ⟨⟨1, 0⟩, ⟨1, 39⟩⟩ }

/-- The enum is left alone by an unknown edit, given a second variant, and expanded. -/
theorem exitCode_keeps_variants :
    Edit.items (.enum exitCode) [none, some (.variant "Spare"), some (.expand "")] =
        [.enum exitCode, .enum exitCode, .enum exitCodeExtended, .enum exitCodeExpanded] ∧
      (∀ item ∈ Edit.items (.enum exitCode) [none, some (.variant "Spare"), some (.expand "")],
        item.ReadsBack) ∧
      exitCode.outlines <+: exitCodeExtended.outlines ∧
      (∃ args, Arguments.ofText "" = .ok args ∧
        ((Item.enum exitCodeExtended).expand args).isSuccess = true ∧
        exitCodeExtended.hasVariant (args.safeCase.getD Configuration.defaultSafeCase) = false) ∧
      (exitCodeExpanded.variants.map Variant.name).Nodup := by
  have hitems : Edit.items (.enum exitCode) [none, some (.variant "Spare"), some (.expand "")] =
      [.enum exitCode, .enum exitCode, .enum exitCodeExtended, .enum exitCodeExpanded] := by
    have hextended : Edit.next (.enum exitCode) (some (.variant "Spare")) =
        .enum exitCodeExtended := by
      decide +kernel
    have hexpanded : Edit.next (.enum exitCodeExtended) (some (.expand "")) =
        .enum exitCodeExpanded := by
      decide +kernel
    rw [Edit.items_cons, Edit.next, Edit.items_cons, hextended, Edit.items_cons, hexpanded]
    rfl
  have hread : ∀ item ∈
      Edit.items (.enum exitCode) [none, some (.variant "Spare"), some (.expand "")],
        item.ReadsBack := by
    have hcode : (Item.enum exitCode).ReadsBack := by decide +kernel
    have hlater : ∀ item ∈ [Item.enum exitCodeExtended, .enum exitCodeExpanded],
        item.ReadsBack := by
      decide +kernel
    rw [hitems]
    exact List.forall_mem_cons.mpr ⟨hcode, List.forall_mem_cons.mpr ⟨hcode, hlater⟩⟩
  obtain ⟨-, hstep, hdistinct⟩ := runAll_keeps_variants hread
  rw [hitems] at hstep hdistinct
  obtain ⟨hkept, -, -⟩ := hstep 1 exitCode exitCodeExtended _ rfl rfl rfl
  obtain ⟨-, hexpand, -⟩ := hstep 2 exitCodeExtended exitCodeExpanded _ rfl rfl rfl
  refine ⟨hitems, hread, hkept, (hexpand _ rfl).2.mp rfl, ?_⟩
  refine hdistinct (by decide) ?_ exitCodeExpanded (by simp)
  intro i before source v hbefore hedit hv
  match i with
  | 0 => cases hedit
  | 1 =>
    cases hedit
    cases hbefore
    have hname : (Variant.ofText? "Spare").map Variant.name = some "Spare" := by decide +kernel
    rw [hv, Option.map_some, Option.some.injEq] at hname
    rw [hname]
    decide
  | 2 => cases hedit
  | i + 3 => simp at hedit

end FallbackEnum
