import CharacterSheet.Handler.Builtin
import CharacterSheet.Pattern.Linear
import CharacterSheet.Proofs.Advantage.Processing

/-!
# Stats of scars

A template reaches a stat of a scar in two ways. It names the stat, and its record is made from the
type of the entity in scope (`Reference.resolve_stat`); or it follows a path to a field of the
entity, which was computed with the scar (`Reference.resolve_entityPath`). The records differ in
their form, but the same attribute is behind both, so they are there for the same characters and
show the same (`PreparedAdvantage.stats_agree`).
-/

namespace CharacterSheet

namespace Value

/-- Two values have the same rating, whichever field is preferred, and the same attribute under
the same name. -/
structure ShowsSame (first second : Value) : Prop where
  rating : ∀ preferBase, first.rating? preferBase = second.rating? preferBase
  trait : first.field? "attribute" = second.field? "attribute"
  name : first.field? "display" = second.field? "display"

end Value

theorem BaseAttribute.labelOf_name (trait : BaseAttribute) : labelOf trait.name = trait.label := by
  cases trait <;> decide

theorem ScarType.ofRecord?_of_name
    {record : Value}
    {type : ScarType}
    (named : record.field? "type" = some (.string type.name)) :
    ofRecord? record = some type := by
  rw [ofRecord?, Value.textField?, named]
  cases type <;> rfl

namespace ScarStat

/-- The path to a stat of the entity in scope. -/
def entityPath (stat : ScarStat) : Text := "this.stats.".toList ++ stat.key.toList

end ScarStat

namespace PreparedAdvantage

/-- The record of a stat as it is kept with a scar. -/
def statRecord (type : ScarType) (stat : ScarStat) (base : Float) : Value :=
  Value.ofFields
    [("name", .string stat.label), ("attribute", .string (stat.attributeFor type).name),
      ("display", .string (stat.attributeFor type).label),
      ("value", ((Number.ofFloat? base).map Value.number).getD .null)]

/-- The stats of a scar of the type. -/
def stats (character : Value) (type : ScarType) : Fields :=
  Fields.ofList (ScarStat.all.filterMap (statField? character type))

/-- A scar has a stat if the character has a rating for its attribute. -/
theorem get?_stats (character : Value) (type : ScarType) (stat : ScarStat) :
    Fields.get? stat.key (stats character type) =
      (attributeBase? character (stat.attributeFor type).name).map (statRecord type stat) := by
  have kept (base? : ScarStat → Option Float) :
      Fields.get? stat.key (Fields.ofList (ScarStat.all.filterMap fun stat =>
        (base? stat).map fun base => (stat.key, statRecord type stat base))) =
        (base? stat).map (statRecord type stat) := by
    cases power : base? .power <;> cases finesse : base? .finesse <;>
      cases resistance : base? .resistance <;> cases stat <;>
        simp [ScarStat.all, Fields.ofList, Fields.insertAll, Fields.get?_insert, ScarStat.key, *]
  exact kept fun stat => attributeBase? character (stat.attributeFor type).name

/-- A stat kept with a scar shows the same as one that is made on demand. -/
theorem showsSame_statRecord (type : ScarType) (stat : ScarStat) (base : Float) :
    (ratedRecord stat.key stat.label (stat.attributeFor type).name base).ShowsSame
      (statRecord type stat base) := by
  refine ⟨fun preferBase => ?_, ?_, ?_⟩
  · -- a base that is not finite is stored as null by both
    unfold ratedRecord statRecord
    cases Number.ofFloat? base <;> cases preferBase <;>
      simp [Value.ofFields, Fields.ofList, Fields.insertAll, Value.rating?, Value.objectRating?,
        Value.firstNumber?, Value.ratingFields, Value.field?, Value.float?, Fields.get?_insert]
  · simp [ratedRecord, statRecord, Value.ofFields, Fields.ofList, Fields.insertAll, Value.field?,
      Fields.get?_insert]
  · simp [ratedRecord, statRecord, Value.ofFields, Fields.ofList, Fields.insertAll, Value.field?,
      Fields.get?_insert, BaseAttribute.labelOf_name]

/-- A scar of a type keeps the type by its name, and its stats. -/
theorem kept_of_fields
    {prepared : PreparedAdvantage}
    {engine : Engine}
    {scope : Scope}
    {type : ScarType}
    {fields : Fields}
    (isScar : prepared.advantage.kind = .scar)
    (typed : ScarType.ofRecord? (.object prepared.commonFields) = some type)
    (computed : prepared.fields engine scope = .ok fields) :
    Fields.get? "type" fields = some (.string type.name) ∧
      Fields.get? "stats" fields = some (.object (stats scope.character type)) := by
  unfold PreparedAdvantage.fields at computed
  rw [isScar] at computed
  obtain ⟨activations, -, rfl⟩ := scarred_eq_ok computed
  have withStats : withStats scope prepared.commonFields =
      Fields.insert "stats" (.object (stats scope.character type))
        (Fields.insert "type" (.string type.name) prepared.commonFields) := by
    rw [PreparedAdvantage.withStats, typed]
    rfl
  rw [withStats]
  unfold withActivations
  constructor <;> split <;> simp [Fields.get?_insert]

end PreparedAdvantage

namespace Reference

variable {book : RuleBook} {scope : Scope} {entity : Value} {type : ScarType}

/-- A stat that is named goes by the type of the entity in scope. -/
theorem resolve_stat
    (inScope : scope.entity? = some entity)
    (typed : ScarType.ofRecord? entity = some type)
    (stat : ScarStat) :
    resolve book scope stat.key.toList =
      match attributeBase? scope.character (stat.attributeFor type).name with
      | none => .error (.unresolved stat.key (.noAttribute (stat.attributeFor type).name))
      | some base =>
          .ok (ratedRecord stat.key stat.label (stat.attributeFor type).name base) := by
  have ofType : scarTypeOf entity scope.character book = .ok type := by
    rw [scarTypeOf, typed]
  have named : resolve book scope stat.key.toList = scarStat book scope stat.key stat := by
    cases stat <;> rfl
  rw [named, scarStat, inScope]
  cases found : attributeBase? scope.character (stat.attributeFor type).name <;>
    simp only [ofType, found]

/-- A path to a stat of the entity leads to the field of the stat. -/
theorem resolve_entityPath
    {fields stats : Fields}
    (inScope : scope.entity? = some (.object fields))
    (held : Fields.get? "stats" fields = some (.object stats))
    (stat : ScarStat) :
    resolve book scope stat.entityPath =
      match Fields.get? stat.key stats with
      | none =>
          .error (.unresolved (String.ofList stat.entityPath) (.noProperty stat.key "stats"))
      | some field => .ok field := by
  have followed : resolve book scope stat.entityPath =
      scopedPath scope.entity? .noEntity (String.ofList stat.entityPath)
        ("stats.".toList ++ stat.key.toList) := by
    cases stat <;> rfl
  have path : Path.read (String.ofList stat.entityPath) ("stats.".toList ++ stat.key.toList) =
      .ok ["stats", stat.key] := by
    cases stat <;> rfl
  have step : (Value.object fields).follow (String.ofList stat.entityPath) ["stats", stat.key] =
      (Value.object stats).followFrom (String.ofList stat.entityPath) ["stats"] [stat.key] := by
    rw [Value.follow, Value.followFrom, Value.step, held]
    rfl
  rw [followed, inScope, scopedPath, path]
  change (Value.object fields).follow _ _ = _
  rw [step, Value.followFrom, Value.step]
  cases Fields.get? stat.key stats <;> rfl

/-- Two references fail together, or stand for values that show the same. -/
def Alike : Except Fault Value → Except Fault Value → Prop
  | .ok first, .ok second => first.ShowsSame second
  | .error _, .error _ => True
  | _, _ => False

/-- An entity that keeps its type and its stats is asked for a stat in either way. -/
theorem alike_of_kept
    {record : Fields}
    (typeKept : Fields.get? "type" record = some (.string type.name))
    (statsKept : Fields.get? "stats" record =
      some (.object (PreparedAdvantage.stats scope.character type)))
    (stat : ScarStat) :
    Alike (resolve book (scope.withEntity (.object record)) stat.key.toList)
      (resolve book (scope.withEntity (.object record)) stat.entityPath) := by
  have typed : ScarType.ofRecord? (.object record) = some type :=
    ScarType.ofRecord?_of_name typeKept
  have character : (scope.withEntity (.object record)).character = scope.character := rfl
  rw [resolve_stat rfl typed, resolve_entityPath rfl statsKept, PreparedAdvantage.get?_stats,
    character]
  cases attributeBase? scope.character (stat.attributeFor type).name with
  | none => trivial
  | some base => exact PreparedAdvantage.showsSame_statRecord type stat base

end Reference

namespace PreparedAdvantage

/-- Whatever the attributes of the character look like, a stat of a scar with a type is there by
its name exactly if it is there as a field of the scar, and then both show the same rating, whether
or not the base is preferred, of the same attribute. So it is while the texts of the scar are
rendered, and for the scar with its texts. -/
theorem stats_agree
    (prepared : PreparedAdvantage)
    (engine : Engine)
    (scope : Scope)
    {type : ScarType}
    {fields : Fields}
    (isScar : prepared.advantage.kind = .scar)
    (typed : ScarType.ofRecord? (.object prepared.commonFields) = some type)
    (computed : prepared.fields engine scope = .ok fields) :
    let agree (record : Fields) : Prop :=
      let scope := scope.withEntity (.object record)
      ∀ stat : ScarStat,
        Reference.Alike (engine.resolve scope stat.key.toList)
          (engine.resolve scope stat.entityPath)
    agree fields ∧
      ∀ journal record after,
        (prepared.withTexts engine scope fields).on journal = (.ok record, after) →
          agree record := by
  intro agree
  obtain ⟨typeKept, statsKept⟩ := kept_of_fields isScar typed computed
  refine ⟨Reference.alike_of_kept typeKept statsKept, ?_⟩
  intro journal record after done
  obtain ⟨effect, _, narrative?, -, rfl, -⟩ := on_withTexts_eq_ok done
  have texts := sameBeyond_described effect narrative? (citation? fields) fields
  exact Reference.alike_of_kept ((texts _ (by decide)).trans typeKept)
    ((texts _ (by decide)).trans statsKept)

/-- A physical scar of a character who has strength, dexterity with a bonus, and no stamina. -/
theorem stats_agree_of_limp :
    let prepared : PreparedAdvantage :=
      { advantage := ⟨.scar, { key := "limp", others := [("type", .string " Physical ")] }⟩
        purchaseLevel := 1
        adjusted := 1.0
        effect := "Slow."
        substitutions := []
        applied := [] }
    let dexterity : Value :=
      .object [("value", .object
        [("base", .number (.ofWord 2)), ("total", .number (.ofWord 3))])]
    let scope : Scope :=
      { character := .object [("attributes", .object
          [("dexterity", dexterity), ("strength", .string "4")])] }
    let engine : Engine :=
      { config := {}, registry := .builtin, rules := ⟨[]⟩, patterns := .linear,
        words := .counting 0 }
    let rating? (preferBase : Bool) (reference : Text) : Option Float :=
      (prepared.fields engine scope).toOption.bind fun fields =>
        (engine.resolve (scope.withEntity (.object fields)) reference).toOption.bind
          (Value.rating? preferBase)
    (rating? false "scarFinesse".toList = some 2.0 ∧
      rating? true "this.stats.scarFinesse".toList = some 2.0 ∧
      rating? false "scarResistance".toList = none) ∧
    ∃ fields, prepared.fields engine scope = .ok fields ∧
      ∀ stat : ScarStat,
        Reference.Alike (engine.resolve (scope.withEntity (.object fields)) stat.key.toList)
          (engine.resolve (scope.withEntity (.object fields)) stat.entityPath) := by
  intro prepared dexterity scope engine rating?
  have typed : ScarType.ofRecord? (.object prepared.commonFields) = some .physical := by
    decide +kernel
  have succeeds : (prepared.fields engine scope).toOption.isSome = true := by decide +kernel
  refine ⟨by decide +kernel, ?_⟩
  rcases computed : prepared.fields engine scope with fault | fields
  · rw [computed] at succeeds
    cases succeeds
  · exact ⟨fields, rfl, (stats_agree prepared engine scope rfl typed computed).1⟩

end PreparedAdvantage

end CharacterSheet
