import CharacterSheet.Pattern.Linear
import CharacterSheet.Proofs.Sheet.Finished

/-!
# What building a sheet changes

Building a sheet adds rows of dots to the rated traits and sets the three lists of
advantages; every other field of the character stays as it was
(`Sheet.frame_of_build`). The lists are made of the records that the character itself
gives: each record is processed once, in order, every one in the journal that the one
before it left.
-/

namespace CharacterSheet

namespace Action

variable {α β γ : Type}

/-- Steps through a list in order: each goes on from the journal that the one before it
left, and every item gives one result. -/
inductive Each (step : α → Action β) : List α → Journal → List β → Journal → Prop
  | nil {journal : Journal} : Each step [] journal [] journal
  | cons
      {item : α}
      {items : List α}
      {result : β}
      {results : List β}
      {journal between after : Journal}
      (first : (step item).on journal = (.ok result, between))
      (rest : Each step items between results after) :
      Each step (item :: items) journal (result :: results) after

/-- Going through a list succeeds when its steps do, one after the other. -/
theorem on_mapM_eq_ok_iff
    {step : α → Action β}
    {items : List α}
    {results : List β}
    {journal after : Journal} :
    (items.mapM step).on journal = (.ok results, after) ↔
      Each step items journal results after := by
  induction items generalizing journal results with
  | nil =>
      constructor
      · intro done
        cases done
        exact .nil
      · intro each
        cases each
        rfl
  | cons item items inductionHypothesis =>
      rw [on_mapM_cons_eq_ok_iff]
      constructor
      · rintro ⟨result, between, rest, first, others, rfl⟩
        exact .cons first (inductionHypothesis.1 others)
      · intro each
        cases each with
        | cons first rest => exact ⟨_, _, _, first, inductionHypothesis.2 rest, rfl⟩

namespace Each

/-- There is one result for every item. -/
theorem length_eq
    {step : α → Action β}
    {items : List α}
    {results : List β}
    {journal after : Journal}
    (each : Each step items journal results after) :
    results.length = items.length := by
  induction each with
  | nil => rfl
  | cons first rest inductionHypothesis =>
      rw [List.length_cons, List.length_cons, inductionHypothesis]

/-- Changed results come from results. -/
theorem of_map
    {change : β → γ}
    {step : α → Action β}
    {items : List α}
    {results : List γ}
    {journal after : Journal}
    (each : Each (fun item => change <$> step item) items journal results after) :
    ∃ own, results = own.map change ∧ Each step items journal own after := by
  induction each with
  | nil => exact ⟨[], rfl, .nil⟩
  | cons first rest inductionHypothesis =>
      obtain ⟨result, isFirst, rfl⟩ := on_map_eq_ok_iff.1 first
      obtain ⟨own, rfl, others⟩ := inductionHypothesis
      exact ⟨result :: own, rfl, .cons isFirst others⟩

end Each

end Action

namespace Sheet

/-- A trait and what becomes of it: an object gets its row of dots and keeps all other
fields, and anything else stays as it is. -/
inductive Dotted (limit : Nat) : Value → Value → Prop
  | object
      {before after : Fields}
      (others : Fields.SameBeyond ["dotline"] before after)
      (dots : Fields.get? "dotline" after =
        some (.ofText (Dot.rowMarkup
          ((DotRating.ofValue (.object before) none).capped limit).dots))) :
      Dotted limit (.object before) (.object after)
  | other
      {trait : Value}
      (plain : trait.fields? = none) :
      Dotted limit trait trait

/-- A group of traits and what becomes of it: an object keeps its keys, and each of its
traits may get a row of dots; anything else stays as it is, also if it is missing. -/
inductive GroupDotted (limit : Nat) : Option Value → Option Value → Prop
  | traits
      {before after : Fields}
      (keys : Fields.keys after = Fields.keys before)
      (each : List.Forall₂ (fun old new => Dotted limit old.2 new.2) before after) :
      GroupDotted limit (some (.object before)) (some (.object after))
  | other
      {group? : Option Value}
      (plain : group?.bind Value.fields? = none) :
      GroupDotted limit group? group?

theorem dotted_withDots (limit : Nat) (trait : Value) :
    Dotted limit trait (withDots limit trait) := by
  cases trait with
  | object fields =>
      refine .object ?_ (Fields.get?_insert_self _ _ _)
      exact (Fields.SameBeyond.refl _ fields).insert List.mem_cons_self _
  | _ => exact .other rfl

/-- Adding the rows of one group changes nothing but the group. -/
theorem get?_withGroupDots
    (limit : Nat)
    (fields : Fields)
    {group other : String}
    (apart : group ≠ other) :
    Fields.get? other (withGroupDots limit fields group) = Fields.get? other fields := by
  unfold withGroupDots
  split
  · dsimp only
    rw [Fields.get?_insert, if_neg apart]
  · rfl

theorem groupDotted_withGroupDots (limit : Nat) (fields : Fields) (group : String) :
    GroupDotted limit (Fields.get? group fields)
      (Fields.get? group (withGroupDots limit fields group)) := by
  unfold withGroupDots
  split
  · next traits isGroup =>
      dsimp only
      rw [isGroup, Fields.get?_insert_self]
      refine .traits ?_ ?_
      · simp [Fields.keys]
      · rw [List.forall₂_map_right_iff]
        exact List.forall₂_same.2 fun entry _ => dotted_withDots limit entry.2
  · next noObject =>
      refine .other ?_
      cases found : Fields.get? group fields with
      | none => rfl
      | some value =>
          cases value with
          | object traits => exact absurd found (noObject traits)
          | _ => rfl

/-- The rows of dots of a character change nothing but the rated groups. -/
theorem sameBeyond_ratedGroups (limit : Nat) (fields : Fields) :
    Fields.SameBeyond ratedGroups fields (ratedGroups.foldl (withGroupDots limit) fields) := by
  intro key beyond
  obtain ⟨noAttributes, noSkills⟩ : "attributes" ≠ key ∧ "skills" ≠ key := by
    simpa [ratedGroups, eq_comm] using beyond
  change Fields.get? key (withGroupDots limit (withGroupDots limit fields _) _) = _
  rw [get?_withGroupDots limit _ noSkills, get?_withGroupDots limit _ noAttributes]

/-- Each rated group gets its rows of dots. -/
theorem groupDotted_of_mem_ratedGroups
    (limit : Nat)
    (fields : Fields)
    {group : String}
    (isRated : group ∈ ratedGroups) :
    GroupDotted limit (Fields.get? group fields)
      (Fields.get? group (ratedGroups.foldl (withGroupDots limit) fields)) := by
  change GroupDotted limit _
    (Fields.get? group (withGroupDots limit (withGroupDots limit fields "attributes") "skills"))
  rcases List.mem_cons.1 isRated with rfl | isSkills
  · rw [get?_withGroupDots limit _ (by decide)]
    exact groupDotted_withGroupDots limit fields _
  · obtain rfl := List.mem_singleton.1 isSkills
    have before := groupDotted_withGroupDots limit (withGroupDots limit fields "attributes")
      "skills"
    rwa [get?_withGroupDots limit fields (by decide)] at before

/-- The rows of dots change none of the records that a character lists. -/
theorem inField_rated
    (limit : Nat)
    (character : Value)
    {field : String}
    (unrated : field ∉ ratedGroups) :
    PlayerRecord.inField (rated limit character) field =
      PlayerRecord.inField character field := by
  cases character with
  | object fields =>
      simp only [rated, PlayerRecord.inField, Value.field?]
      rw [sameBeyond_ratedGroups limit fields field unrated]
  | _ => rfl

/-- Processing the records in a field gives one result for each of them in order. -/
theorem on_processed_eq_ok
    {sheet : Sheet}
    {kind : AdvantageKind}
    {field : String}
    {character : Value}
    {records : List Value}
    {journal after : Journal}
    (done : (sheet.processed kind field character).on journal = (.ok records, after)) :
    ∃ results : List Fields,
      records = results.map Value.object ∧
      Action.Each (Advantage.process kind sheet.engine (sheet.scope character))
        (PlayerRecord.inField character field) journal results after :=
  Action.Each.of_map (Action.on_mapM_eq_ok_iff.1 done)

/-- The fields that building a sheet may change or add. -/
def builtNames : List String := ratedGroups ++ ["scars", "merits", "variations"]

/-- What becomes of the fields of a character when its sheet is built from one journal to
the other. -/
structure Frame (sheet : Sheet) (before after : Fields) (journal ended : Journal) : Prop where
  /-- No other field is changed and no other field is added. -/
  others : Fields.SameBeyond builtNames before after
  /-- The rated groups get their rows of dots. -/
  groups : ∀ group ∈ ratedGroups,
    GroupDotted sheet.engine.config.maxDots (Fields.get? group before)
      (Fields.get? group after)
  /-- The scars are processed first, with the rows of dots in scope. With the processed
  scars in scope as well, the merits are processed with all they grant, and then the
  variations; what the merits grant stands before these. -/
  lists :
    let character := rated sheet.engine.config.maxDots (.object before)
    ∃ (scars variations : List Fields) (tree : MeritTree) (scarred granted : Journal),
      let scope := sheet.scope (withField "scars" (.array (scars.map .object)) character)
      Action.Each (Advantage.process .scar sheet.engine (sheet.scope character))
        (PlayerRecord.inField (.object before) "scars") journal scars scarred ∧
      (MeritTree.process sheet.engine scope
        (PlayerRecord.inField (.object before) "merits")).on scarred = (.ok tree, granted) ∧
      Action.Each (Advantage.process .variation sheet.engine scope)
        (PlayerRecord.inField (.object before) "variations") granted variations ended ∧
      Fields.get? "scars" after = some (.array (scars.map .object)) ∧
      Fields.get? "merits" after = some (.array tree.merits) ∧
      Fields.get? "variations" after =
        some (.array (tree.variations ++ variations.map .object))

/-- There are as many scars on a built sheet as its character lists. -/
theorem Frame.length_scars
    {sheet : Sheet}
    {before after : Fields}
    {journal ended : Journal}
    (frame : Frame sheet before after journal ended) :
    (PlayerRecord.inField (.object after) "scars").length =
      (PlayerRecord.inField (.object before) "scars").length := by
  obtain ⟨scars, _, _, _, _, each, -, -, listed, -⟩ := frame.lists
  have items : PlayerRecord.inField (.object after) "scars" =
      (scars.map Value.object).map PlayerRecord.ofItem := by
    rw [PlayerRecord.inField, Value.field?, listed]
  rw [items, List.length_map, List.length_map, each.length_eq]

/-- Setting the three lists changes nothing but them. -/
theorem sameBeyond_lists (scars merits variations : Value) (fields : Fields) :
    Fields.SameBeyond ["scars", "merits", "variations"] fields
      (Fields.insert "variations" variations
        (Fields.insert "merits" merits (Fields.insert "scars" scars fields))) :=
  (((Fields.SameBeyond.refl _ fields).insert (by decide) scars).insert (by decide) merits).insert
    (by decide) variations

/-- Building a sheet neither loses nor disturbs what its character has. -/
theorem frame_of_build
    {sheet : Sheet}
    {before : Fields}
    {character : Value}
    {journal after : Journal}
    (isObject : sheet.character = .object before)
    (built : sheet.build.on journal = (.ok character, after)) :
    ∃ fields, character = .object fields ∧ Frame sheet before fields journal after := by
  unfold build at built
  rw [isObject] at built
  obtain ⟨scars, scarred, isScars, built⟩ := Action.on_bind_eq_ok_iff.1 built
  obtain ⟨tree, granted, isTree, built⟩ := Action.on_bind_eq_ok_iff.1 built
  obtain ⟨variations, _, isVariations, built⟩ := Action.on_bind_eq_ok_iff.1 built
  cases built
  obtain ⟨scars, rfl, eachScar⟩ := on_processed_eq_ok isScars
  obtain ⟨variations, rfl, eachVariation⟩ := on_processed_eq_ok isVariations
  have lists := sameBeyond_lists (.array (scars.map .object)) (.array tree.merits)
    (.array (tree.variations ++ variations.map .object))
    (ratedGroups.foldl (withGroupDots sheet.engine.config.maxDots) before)
  refine ⟨_, rfl, ?_, ?_, ?_⟩
  · have groups := sameBeyond_ratedGroups sheet.engine.config.maxDots before
    exact (groups.mono (List.subset_append_left _ _)).trans
      (lists.mono (List.subset_append_right _ _))
  · intro group isRated
    have unlisted : group ∉ ["scars", "merits", "variations"] := by
      revert group
      decide
    rw [lists group unlisted]
    exact groupDotted_of_mem_ratedGroups _ before isRated
  · -- the records are those of the character itself: no stage before them changes their field
    rw [inField_rated _ _ (by decide)] at eachScar
    rw [PlayerRecord.inField_withField (by decide), inField_rated _ _ (by decide)] at isTree
    rw [PlayerRecord.inField_withField (by decide), inField_rated _ _ (by decide)]
      at eachVariation
    refine ⟨scars, variations, tree, scarred, granted, eachScar, isTree, eachVariation, ?_, ?_, ?_⟩
    · rw [Fields.get?_insert, if_neg (by decide), Fields.get?_insert, if_neg (by decide),
        Fields.get?_insert_self]
    · rw [Fields.get?_insert, if_neg (by decide), Fields.get?_insert_self]
    · exact Fields.get?_insert_self _ _ _

/-- A character with a name, attributes of which one is no object, a scar in an object, a
merit that grants a variation, and a variation by its key. -/
theorem frame_of_build_of_scar :
    let scar : Value :=
      .object [("effect", .string "Slow."), ("type", .string "physical")]
    let trick : Value := .object [("effect", .string ""), ("type", .string "mental")]
    let mentor : Value :=
      .object
        [("effect", .string "{{BR}}"), ("key", .string "mentor"),
          ("secondaryVariations", .array [.string "trick"])]
    let before : Fields :=
      [("attributes", .object [("strength", .object []), ("wits", .string "two")]),
        ("merits", .array [mentor]), ("name", .string "Ada"),
        ("scars", .object [("limp", scar)]), ("variations", .array [.string "trick"])]
    let sheet : Sheet :=
      { character := .object before
        engine :=
          { config := {}
            registry := .builtin
            rules := ⟨[("variations", .object [("trick", trick)])]⟩
            patterns := .linear
            words := .counting 0 } }
    ∃ fields after,
      sheet.build.on {} = (.ok (.object fields), after) ∧
      (PlayerRecord.inField (.object fields) "variations").length = 2 ∧
      Frame sheet before fields {} after := by
  intro scar trick mentor before sheet
  have count : (sheet.build.on {}).1.toOption.map
      (fun character => (PlayerRecord.inField character "variations").length) = some 2 := by
    decide +kernel
  rcases built : sheet.build.on {} with ⟨fault | character, after⟩
  · rw [built] at count
    cases count
  · rw [built] at count
    have isObject : sheet.character = .object before := rfl
    obtain ⟨fields, rfl, frame⟩ := frame_of_build isObject built
    exact ⟨fields, after, rfl, Option.some.inj count, frame⟩

end Sheet
end CharacterSheet
