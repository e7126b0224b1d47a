import CharacterSheet.Handler.Builtin
import CharacterSheet.Proofs.Advantage.LevelOrder
import CharacterSheet.Proofs.Advantage.Worklist
import Mathlib.Logic.Relation
import CharacterSheet.Pattern.Linear

/-!
# The forest of advantages

A worklist that empties has gone through a forest: under each node stand the nodes that
it granted. The worklist takes the first tree of a queue and puts its children behind the
others, which is level order. So a processed list of merits is the level-order listing of
the forest that the records declare (`MeritTree.process_levelOrder`). The worklist
always ends, whatever the records declare, and below no node stands its like
(`MeritTree.process_halts`).
-/

namespace CharacterSheet
namespace AdvantageTree

open AdvantageNode

variable {engine : Engine} {scope : Scope} {journal after : Journal}
  {tree below child : AdvantageTree} {forest : List AdvantageTree}

/-- The node and its fields. -/
def entry (tree : AdvantageTree) : AdvantageNode × Fields := (tree.node, tree.fields)

/-- The children of a tree are what its fields declare. -/
structure Declared (tree : AdvantageTree) : Prop where
  /-- There is one child for each declared entry, in order. -/
  granted : List.Forall₂ tree.node.GrantedBy (grants tree.fields) (tree.children.map node)
  /-- The record of a child names its parent. -/
  parentKey : ∀ child ∈ tree.children,
    child.node.input.field? "parentKey" = some (.string tree.node.key)
  /-- The fields list the keys of the children. -/
  childKeys : tree.children ≠ [] →
    Fields.get? "secondaryKeys" tree.fields =
      some (.array (tree.children.map fun child => .string child.node.key))

/-- Processes the record of a node and lists the keys of its children. -/
def process (engine : Engine) (scope : Scope) (tree : AdvantageTree) :
    Action Fields :=
  withChildKeys (tree.children.map node) <$>
    Advantage.process tree.node.kind engine scope tree.node.input

/-- One tree is a child of the other. -/
def ChildOf (child tree : AdvantageTree) : Prop := child ∈ tree.children

theorem declared_of_children
    {fields own : Fields}
    {node : AdvantageNode}
    {children : List AdvantageTree}
    (areChildren : node.children own = .ok (children.map AdvantageTree.node))
    (keyed : fields = withChildKeys (children.map AdvantageTree.node) own) :
    Declared ⟨node, fields, children⟩ := by
  have granted := grantedBy_of_children areChildren
  refine ⟨?_, fun child mem => ?_, fun notEmpty => ?_⟩
  · rw [keyed, grants_withChildKeys]
    exact granted
  · obtain ⟨entry, -, grantedBy⟩ :=
      exists_of_mem_of_forall₂ granted (List.mem_map_of_mem mem)
    exact grantedBy.parentKey
  · rw [keyed, get?_withChildKeys (by simpa using notEmpty), List.map_map]
    rfl

/-- The forest that a worklist goes through when it empties. -/
theorem exists_of_worklist
    {queue : List AdvantageNode}
    {steps : Nat}
    {outcome : Except Fault (List (AdvantageNode × Fields))}
    (run : Worklist engine scope queue journal steps outcome after)
    {listing : List (AdvantageNode × Fields)}
    (empties : outcome = .ok listing) :
    ∃ forest : List AdvantageTree,
      forest.map node = queue ∧
      steps = (levelOrder forest).length ∧
      listing = (levelOrder forest).map entry ∧
      (∀ tree ∈ levelOrder forest, tree.Declared ∧ tree.node.label ∉ tree.node.ancestors) ∧
      ((levelOrder forest).mapM (process engine scope)).on journal =
        (.ok ((levelOrder forest).map fields), after) := by
  induction run generalizing listing with
  | empty journal =>
      cases empties
      exact ⟨[], rfl, rfl, rfl, List.forall_mem_nil _, rfl⟩
  | stopped => cases empties
  | @taken node queue children fields journal between after steps outcome processed rest
      inductionHypothesis =>
      cases outcome with
      | error fault => cases empties
      | ok others =>
          cases empties
          obtain ⟨forest, nodes, rfl, rfl, declared, replayed⟩ := inductionHypothesis rfl
          -- The last trees of the later queue are the children: they move below the node.
          obtain ⟨first, below, rfl, rfl, rfl⟩ := List.map_eq_append_iff.1 nodes
          obtain ⟨fresh, own, isOwn, areChildren, keyed⟩ := on_process_eq_ok processed
          refine ⟨⟨node, fields, below⟩ :: first, rfl, ?_, ?_, ?_, ?_⟩
          · rw [levelOrder_cons, List.length_cons]
          · rw [levelOrder_cons, List.map_cons]
            rfl
          · rw [levelOrder_cons, List.forall_mem_cons]
            exact ⟨⟨declared_of_children areChildren keyed, fresh⟩, declared⟩
          · rw [levelOrder_cons]
            refine Action.on_mapM_cons_eq_ok_iff.2
              ⟨fields, between, _, ?_, replayed, rfl⟩
            rw [process, Action.on_map, isOwn, keyed]
            rfl

/-- In a declared forest everything below a tree has the label of the tree on its path. -/
theorem label_mem_ancestors
    (declared : ∀ tree ∈ levelOrder forest, tree.Declared)
    (mem : tree ∈ levelOrder forest)
    (isBelow : Relation.TransGen ChildOf below tree) :
    below ∈ levelOrder forest ∧ tree.node.label ∈ below.node.ancestors := by
  have ancestors {child parent : AdvantageTree}
      (parentMem : parent ∈ levelOrder forest)
      (isChild : ChildOf child parent) :
      child.node.ancestors = parent.node.label :: parent.node.ancestors := by
    obtain ⟨_, -, granted⟩ := exists_of_mem_of_forall₂ (declared parent parentMem).granted
      (List.mem_map_of_mem isChild)
    exact granted.ancestors_eq
  induction isBelow using Relation.TransGen.head_induction_on with
  | single isChild =>
      rw [ancestors mem isChild]
      exact ⟨mem_levelOrder_of_mem_children mem isChild, List.mem_cons_self⟩
  | head isChild _ inductionHypothesis =>
      obtain ⟨parentMem, onPath⟩ := inductionHypothesis
      rw [ancestors parentMem isChild]
      exact ⟨mem_levelOrder_of_mem_children parentMem isChild, List.mem_cons_of_mem _ onPath⟩

theorem rootOf_of_mapM
    {merits : List Value}
    (areRoots : merits.mapM ofMerit = .ok (forest.map node)) :
    List.Forall₂ (fun merit tree => RootOf merit tree.node) merits forest := by
  have roots := (mapM_eq_ok_iff.1 areRoots).imp fun _ _ isRoot => rootOf_of_ofMerit isRoot
  rwa [List.forall₂_map_right_iff] at roots

theorem ofKind_kinds_map_entry (kind : AdvantageKind) (trees : List AdvantageTree) :
    MeritTree.ofKind kind (kinds (trees.map entry)) =
      (trees.filter fun tree => tree.node.kind == kind).map fun tree => .object tree.fields := by
  simp [MeritTree.ofKind, kinds, entry, List.filter_map, Function.comp_def]

end AdvantageTree

namespace MeritTree

open AdvantageNode AdvantageTree

variable {engine : Engine} {scope : Scope} {merits : List Value}
  {journal after : Journal}

/-- The tree lists a forest of advantages in level order, as they were processed from one
journal to the other. -/
structure Lists
    (engine : Engine)
    (scope : Scope)
    (merits : List Value)
    (journal after : Journal)
    (tree : MeritTree)
    (forest : List AdvantageTree) : Prop where
  /-- The roots are the given merits in order. -/
  roots : List.Forall₂ (fun merit tree => RootOf merit tree.node) merits forest
  /-- Under each node stands what its processed fields declare. -/
  declared : ∀ tree ∈ levelOrder forest, tree.Declared
  /-- The queue of the roots takes the nodes in level order, each of them once. -/
  queued :
    Worklist engine scope (forest.map node) journal (levelOrder forest).length
      (.ok ((levelOrder forest).map entry)) after
  /-- Processing the records of the nodes in level order gives their fields. -/
  replayed :
    ((levelOrder forest).mapM (AdvantageTree.process engine scope)).on journal =
      (.ok ((levelOrder forest).map fields), after)
  /-- The merits are those among the listed nodes. -/
  merits_eq :
    tree.merits =
      ((levelOrder forest).filter fun tree => tree.node.kind == .merit).map
        fun tree => .object tree.fields
  /-- The variations are those among the listed nodes. -/
  variations_eq :
    tree.variations =
      ((levelOrder forest).filter fun tree => tree.node.kind == .variation).map
        fun tree => .object tree.fields

/-- Processed merits and what they granted are the level-order listing of a forest. -/
theorem process_levelOrder
    {tree : MeritTree}
    (processed : (process engine scope merits).on journal = (.ok tree, after)) :
    ∃ forest, Lists engine scope merits journal after tree forest := by
  obtain ⟨_, _, _, areRoots, run, rfl⟩ := exists_worklist_of_process processed
  obtain ⟨forest, rfl, rfl, rfl, grown, replayed⟩ := exists_of_worklist run rfl
  exact ⟨forest,
    { roots := rootOf_of_mapM areRoots
      declared := fun tree mem => (grown tree mem).1
      queued := run
      replayed
      merits_eq := ofKind_kinds_map_entry _ _
      variations_eq := ofKind_kinds_map_entry _ _ }⟩

/-- A mentor grants a library and a trick, and the library, by the rules, a key to it. -/
theorem process_levelOrder_of_library :
    let library : Value :=
      .object [("effect", .string ""), ("secondaryMerits", .array [.string "key"])]
    let engine : Engine :=
      { config := {}
        registry := .builtin
        rules := ⟨[("merits", .object
          [("key", .object [("effect", .string "")]), ("library", library)])]⟩
        patterns := .linear
        words := .counting 0 }
    let trick : Value :=
      .object [("effect", .string ""), ("key", .string "trick"), ("type", .string "mental")]
    let mentor : Value :=
      .object
        [("effect", .string ""), ("key", .string "mentor"),
          ("secondaryMerits", .array [.string "library"]),
          ("secondaryVariations", .array [trick])]
    let scope : Scope := { character := .object [] }
    ∃ tree after,
      (process engine scope [mentor]).on {} = (.ok tree, after) ∧
      tree.merits.map (Value.textField? "key") = [some "mentor", some "library", some "key"] ∧
      tree.variations.map (Value.textField? "key") = [some "trick"] ∧
      ∃ forest, Lists engine scope [mentor] {} after tree forest := by
  intro library engine trick mentor scope
  have keys : ((process engine scope [mentor]).on {}).1.toOption.map
      (fun tree => (tree.merits.map (Value.textField? "key"),
        tree.variations.map (Value.textField? "key"))) =
      some ([some "mentor", some "library", some "key"], [some "trick"]) := by
    decide +kernel
  rcases processed : (process engine scope [mentor]).on {} with ⟨fault | tree, after⟩
  · rw [processed] at keys
    cases keys
  · rw [processed] at keys
    obtain ⟨merits, variations⟩ := Prod.mk.inj (Option.some.inj keys)
    exact ⟨tree, after, rfl, merits, variations, process_levelOrder processed⟩

/-- Processing merits halts, whatever the merits and the rules declare: without a key in
each of the merits nothing is processed, and else the worklist ends after finitely many
steps, with what processing gives. If it empties, it went through a declared forest in
which no tree has the kind and the key of another one that it stands below. -/
theorem process_halts
    (engine : Engine)
    (scope : Scope)
    (merits : List Value)
    (journal : Journal) :
    match merits.mapM ofMerit with
    | .error fault => (process engine scope merits).on journal = (.error fault, journal)
    | .ok roots =>
        (∃ steps outcome after, Worklist engine scope roots journal steps outcome after) ∧
        ∀ steps outcome after, Worklist engine scope roots journal steps outcome after →
          (process engine scope merits).on journal = (outcome.map ofListing, after) ∧
          ∀ listing, outcome = .ok listing →
            ∃ forest : List AdvantageTree,
              forest.map node = roots ∧
              (levelOrder forest).map entry = listing ∧
              (∀ tree ∈ levelOrder forest, tree.Declared) ∧
              ∀ tree ∈ levelOrder forest, ∀ below,
                Relation.TransGen ChildOf below tree → below.node.label ≠ tree.node.label := by
  cases areRoots : merits.mapM ofMerit with
  | error fault => exact on_process_of_error areRoots journal
  | ok roots =>
      obtain ⟨steps, outcome, after, ends, agrees⟩ := on_process_of_ok areRoots journal
      refine ⟨⟨steps, outcome, after, ends⟩, fun steps outcome after run => ?_⟩
      obtain ⟨rfl, rfl, rfl⟩ := ends.unique run
      refine ⟨agrees, fun listing empties => ?_⟩
      obtain ⟨forest, roots, -, listed, grown, -⟩ := exists_of_worklist run empties
      have declared : ∀ tree ∈ levelOrder forest, tree.Declared :=
        fun tree mem => (grown tree mem).1
      refine ⟨forest, roots, listed.symm, declared, fun tree mem below isBelow same => ?_⟩
      obtain ⟨belowMem, onPath⟩ := label_mem_ancestors declared mem isBelow
      exact (grown below belowMem).2 (same ▸ onPath)

end MeritTree
end CharacterSheet
