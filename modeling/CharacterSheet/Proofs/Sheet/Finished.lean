import CharacterSheet.Handler.Builtin
import CharacterSheet.Pattern.Linear
import CharacterSheet.Proofs.Advantage.Finished
import CharacterSheet.Proofs.Advantage.Worklist
import CharacterSheet.Sheet

/-!
# Built sheets are finished

A built sheet lists processed records only: its scars and its variations are processed
one by one, its merits by the worklist, and each step both finishes a record and leaves
the renderer outside of any expansion, where the next record is finished again
(`Sheet.finished_of_build`).
-/

namespace CharacterSheet

variable {engine : Engine} {scope : Scope} {journal after : Journal}

namespace AdvantageNode

/-- A processed node is finished. -/
theorem finished_of_process
    {node : AdvantageNode}
    {fields : Fields}
    {children : List AdvantageNode}
    (outermost : journal.depth = 0)
    (processed : (node.process engine scope).on journal = (.ok (fields, children), after)) :
    Advantage.Finished node.kind engine.config.maxDots (.object fields) ∧ after.depth = 0 := by
  obtain ⟨-, own, isOwn, -, rfl⟩ := on_process_eq_ok processed
  obtain ⟨finished, depth⟩ := Advantage.finished_of_process outermost isOwn
  exact ⟨finished.sameBeyond (sameBeyond_withChildKeys children own) (by decide), depth⟩

/-- What a worklist lists is finished. -/
theorem finished_of_worklist
    {queue : List AdvantageNode}
    {steps : Nat}
    {outcome : Except Fault (List (AdvantageNode × Fields))}
    (outermost : journal.depth = 0)
    (run : Worklist engine scope queue journal steps outcome after)
    {listing : List (AdvantageNode × Fields)}
    (empties : outcome = .ok listing) :
    (∀ entry ∈ listing,
      Advantage.Finished entry.1.kind engine.config.maxDots (.object entry.2)) ∧
      after.depth = 0 := by
  induction run generalizing listing with
  | empty =>
      cases empties
      exact ⟨List.forall_mem_nil _, outermost⟩
  | stopped => cases empties
  | @taken _ _ _ _ _ _ _ _ outcome processed _ inductionHypothesis =>
      obtain ⟨finished, depth⟩ := finished_of_process outermost processed
      cases outcome with
      | error fault => cases empties
      | ok others =>
          cases empties
          obtain ⟨others, ends⟩ := inductionHypothesis depth rfl
          exact ⟨List.forall_mem_cons.2 ⟨finished, others⟩, ends⟩

end AdvantageNode

namespace MeritTree

theorem finished_of_mem_ofKind
    {kind : AdvantageKind}
    {limit : Nat}
    {listing : List (AdvantageNode × Fields)}
    (finished : ∀ entry ∈ listing, Advantage.Finished entry.1.kind limit (.object entry.2)) :
    ∀ record ∈ ofKind kind (AdvantageNode.kinds listing),
      Advantage.Finished kind limit record := by
  intro record mem
  obtain ⟨_, filtered, rfl⟩ := List.mem_map.1 mem
  obtain ⟨listed, isKind⟩ := List.mem_filter.1 filtered
  obtain ⟨entry, entryMem, rfl⟩ := List.mem_map.1 listed
  have same : entry.1.kind = kind := by simpa using isKind
  exact same ▸ finished entry entryMem

/-- Processed merits and what they granted are finished. -/
theorem finished_of_process
    {merits : List Value}
    {tree : MeritTree}
    (outermost : journal.depth = 0)
    (processed : (process engine scope merits).on journal = (.ok tree, after)) :
    (∀ record ∈ tree.merits, Advantage.Finished .merit engine.config.maxDots record) ∧
      (∀ record ∈ tree.variations,
        Advantage.Finished .variation engine.config.maxDots record) ∧
      after.depth = 0 := by
  obtain ⟨_, _, _, -, run, rfl⟩ := exists_worklist_of_process processed
  obtain ⟨finished, depth⟩ := AdvantageNode.finished_of_worklist outermost run rfl
  exact ⟨finished_of_mem_ofKind finished, finished_of_mem_ofKind finished, depth⟩

end MeritTree

namespace PlayerRecord

theorem ofItem_of_finished
    {kind : AdvantageKind}
    {limit : Nat}
    {record : Value}
    (finished : Advantage.Finished kind limit record) :
    ofItem record = record := by
  cases record with
  | string s =>
      obtain ⟨_, found, -⟩ := finished.effect
      cases found
  | _ => rfl

/-- A field that is set to finished records lists finished records. -/
theorem finished_of_mem_inField
    {kind : AdvantageKind}
    {limit : Nat}
    {records : List Value}
    (finished : ∀ record ∈ records, Advantage.Finished kind limit record)
    (character : Value)
    (field : String) :
    ∀ record ∈ inField (Sheet.withField field (.array records) character) field,
      Advantage.Finished kind limit record := by
  intro record mem
  cases character with
  | object fields =>
      rw [Sheet.withField, inField, Value.field?, Fields.get?_insert_self] at mem
      obtain ⟨item, itemMem, rfl⟩ := List.mem_map.1 mem
      rw [ofItem_of_finished (finished item itemMem)]
      exact finished item itemMem
  | _ => cases mem

/-- Setting a field changes no other listed records. -/
theorem inField_withField
    {field other : String}
    (apart : other ≠ field)
    (value character : Value) :
    inField (Sheet.withField other value character) field = inField character field := by
  cases character with
  | object fields =>
      rw [Sheet.withField, inField, inField, Value.field?, Value.field?, Fields.get?_insert,
        if_neg apart]
  | _ => rfl

end PlayerRecord

namespace Sheet

variable {sheet : Sheet} {character : Value}

/-- Records that are processed one by one are finished. -/
theorem finished_of_processed
    {kind : AdvantageKind}
    {field : String}
    {records : List Value}
    (outermost : journal.depth = 0)
    (done : (sheet.processed kind field character).on journal = (.ok records, after)) :
    (∀ record ∈ records, Advantage.Finished kind sheet.engine.config.maxDots record) ∧
      after.depth = 0 := by
  have each : ∀ record ∈ PlayerRecord.inField character field, ∀ journal result after,
      journal.depth = 0 →
      (Value.object <$> Advantage.process kind sheet.engine (sheet.scope character)
        record).on journal = (.ok result, after) →
      Advantage.Finished kind sheet.engine.config.maxDots result ∧ after.depth = 0 := by
    intro record _ journal result after outermost done
    obtain ⟨fields, processed, rfl⟩ := Action.on_map_eq_ok_iff.1 done
    exact Advantage.finished_of_process outermost processed
  exact Action.holds_of_mapM each outermost done

/-- The records that a character lists are finished. -/
structure Finished (limit : Nat) (character : Value) : Prop where
  scars : ∀ record ∈ PlayerRecord.inField character "scars",
    Advantage.Finished .scar limit record
  merits : ∀ record ∈ PlayerRecord.inField character "merits",
    Advantage.Finished .merit limit record
  variations : ∀ record ∈ PlayerRecord.inField character "variations",
    Advantage.Finished .variation limit record

/-- Every record of a built sheet is finished. -/
theorem finished_of_build
    (outermost : journal.depth = 0)
    (built : sheet.build.on journal = (.ok character, after)) :
    Finished sheet.engine.config.maxDots character := by
  unfold build at built
  obtain ⟨scars, _, isScars, built⟩ := Action.on_bind_eq_ok_iff.1 built
  obtain ⟨tree, _, isTree, built⟩ := Action.on_bind_eq_ok_iff.1 built
  obtain ⟨variations, _, isVariations, built⟩ := Action.on_bind_eq_ok_iff.1 built
  cases built
  obtain ⟨scars, depth⟩ := finished_of_processed outermost isScars
  obtain ⟨merits, granted, depth⟩ := MeritTree.finished_of_process depth isTree
  obtain ⟨variations, -⟩ := finished_of_processed depth isVariations
  refine ⟨?_, ?_, ?_⟩
  · rw [PlayerRecord.inField_withField (by decide), PlayerRecord.inField_withField (by decide)]
    exact PlayerRecord.finished_of_mem_inField scars _ _
  · rw [PlayerRecord.inField_withField (by decide)]
    exact PlayerRecord.finished_of_mem_inField merits _ _
  · refine PlayerRecord.finished_of_mem_inField (fun record mem => ?_) _ _
    exact (List.mem_append.1 mem).elim (granted record) (variations record)

/-- A character with a scar, a merit that grants a variation, and a variation. -/
theorem finished_of_build_of_scar :
    let scar : Value :=
      .object
        [("activation", .string "Controlled"), ("effect", .string "Slow."),
          ("key", .string "limp"), ("narrative", .string "A fall.{{BR}}Years ago."),
          ("type", .string "physical")]
    let trick : Value :=
      .object [("effect", .string ""), ("key", .string "trick"), ("type", .string "mental")]
    let mentor : Value :=
      .object
        [("effect", .string "{{BR}}"), ("key", .string "mentor"),
          ("secondaryVariations", .array [trick])]
    let sheet : Sheet :=
      { character := .object
          [("merits", .array [mentor]), ("scars", .array [scar]),
            ("variations", .array [trick])]
        engine :=
          { config := {}
            registry := .builtin
            rules := ⟨[]⟩
            patterns := .linear
            words := .counting 0 } }
    ∃ character after,
      sheet.build.on {} = (.ok character, after) ∧
      (PlayerRecord.inField character "scars").length = 1 ∧
      (PlayerRecord.inField character "merits").length = 1 ∧
      (PlayerRecord.inField character "variations").length = 2 ∧
      Finished sheet.engine.config.maxDots character := by
  intro scar trick mentor sheet
  have counts : (sheet.build.on {}).1.toOption.map
      (fun character => ["scars", "merits", "variations"].map fun field =>
        (PlayerRecord.inField character field).length) = some [1, 1, 2] := by
    decide +kernel
  rcases built : sheet.build.on {} with ⟨fault | character, after⟩
  · rw [built] at counts
    cases counts
  · rw [built] at counts
    obtain ⟨scars, merits, variations⟩ :
        (PlayerRecord.inField character "scars").length = 1 ∧
        (PlayerRecord.inField character "merits").length = 1 ∧
        (PlayerRecord.inField character "variations").length = 2 := by
      simpa [Except.toOption] using counts
    exact ⟨character, after, rfl, scars, merits, variations, finished_of_build rfl built⟩

end Sheet
end CharacterSheet
