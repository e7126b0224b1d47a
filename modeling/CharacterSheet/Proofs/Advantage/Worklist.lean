import CharacterSheet.Proofs.Advantage.Granting

/-!
# The worklist of advantages

A worklist takes one node after the other from the front and puts what it grants at the
end. It has no bound on its steps. Processing a queue, with the bound that
`MeritTree.longestPath` computes, comes to the same (`AdvantageNode.follows_processQueue`):
when the front of the queue is empty, all nodes at its back are one step further down,
and no node is deeper than the bound.
-/

namespace CharacterSheet
namespace AdvantageNode

variable {engine : Engine} {scope : Scope}
  {journal between after : Journal}
  {queue : List AdvantageNode} {steps : Nat}
  {outcome : Except Fault (List (AdvantageNode × Fields))}

/-- The worklist ends after the given number of steps: no node is left, or one of them
failed. The outcome has the nodes in the order in which they were taken, with their
fields. -/
inductive Worklist (engine : Engine) (scope : Scope) :
    List AdvantageNode → Journal → Nat →
      Except Fault (List (AdvantageNode × Fields)) → Journal → Prop
  | empty (journal : Journal) : Worklist engine scope [] journal 0 (.ok []) journal
  | stopped
      {node : AdvantageNode}
      {queue : List AdvantageNode}
      {journal after : Journal}
      {fault : Fault}
      (failed : (node.process engine scope).on journal = (.error fault, after)) :
      Worklist engine scope (node :: queue) journal 1 (.error fault) after
  | taken
      {node : AdvantageNode}
      {queue children : List AdvantageNode}
      {fields : Fields}
      {journal between after : Journal}
      {steps : Nat}
      {outcome : Except Fault (List (AdvantageNode × Fields))}
      (processed : (node.process engine scope).on journal =
        (.ok (fields, children), between))
      (rest : Worklist engine scope (queue ++ children) between steps outcome after) :
      Worklist engine scope (node :: queue) journal (steps + 1)
        (outcome.map ((node, fields) :: ·)) after

namespace Worklist

/-- A worklist ends in one way only. -/
theorem unique
    {otherSteps : Nat}
    {otherOutcome : Except Fault (List (AdvantageNode × Fields))}
    {otherAfter : Journal}
    (run : Worklist engine scope queue journal steps outcome after)
    (other : Worklist engine scope queue journal otherSteps otherOutcome otherAfter) :
    otherSteps = steps ∧ otherOutcome = outcome ∧ otherAfter = after := by
  induction run generalizing otherSteps otherOutcome otherAfter with
  | empty =>
      cases other
      exact ⟨rfl, rfl, rfl⟩
  | stopped failed =>
      cases other with
      | stopped otherFailed =>
          cases failed.symm.trans otherFailed
          exact ⟨rfl, rfl, rfl⟩
      | taken processed => cases failed.symm.trans processed
  | taken processed rest inductionHypothesis =>
      cases other with
      | stopped failed => cases processed.symm.trans failed
      | taken otherProcessed otherRest =>
          cases processed.symm.trans otherProcessed
          obtain ⟨rfl, rfl, rfl⟩ := inductionHypothesis otherRest
          exact ⟨rfl, rfl, rfl⟩

end Worklist

/-- The kinds of listed nodes, with their fields. -/
def kinds (listing : List (AdvantageNode × Fields)) : List (AdvantageKind × Fields) :=
  listing.map fun entry => (entry.1.kind, entry.2)

/-- The nodes have only given texts, and all of them are as far down. -/
def TracedAt (given : List String) (depth : Nat) (nodes : List AdvantageNode) : Prop :=
  ∀ node ∈ nodes, node.Traced given ∧ node.ancestors.length = depth

/-- A step comes to what the worklist of a queue comes to. -/
def Follows
    (engine : Engine)
    (scope : Scope)
    (action : Action (List (AdvantageKind × Fields)))
    (queue : List AdvantageNode)
    (journal : Journal) : Prop :=
  ∃ steps outcome after,
    Worklist engine scope queue journal steps outcome after ∧
    action.on journal = (outcome.map kinds, after)

/-- If going on with the back of a queue comes to what the worklist comes to, then so does
taking the nodes at its front. -/
theorem follows_processFront
    {given : List String}
    (rulesWithin : engine.rules.categories.Within given)
    {depth : Nat}
    {goOn : List AdvantageNode → Action (List (AdvantageKind × Fields))}
    (goesOn : ∀ queue journal, TracedAt given (depth + 1) queue →
      Follows engine scope (goOn queue) queue journal)
    {front back : List AdvantageNode}
    (frontTraced : TracedAt given depth front)
    (backTraced : TracedAt given (depth + 1) back)
    (journal : Journal) :
    Follows engine scope (processFront engine scope goOn front back)
      (front ++ back) journal := by
  induction front generalizing back journal with
  | nil => exact goesOn back journal backTraced
  | cons node front inductionHypothesis =>
      obtain ⟨⟨isTraced, isDepth⟩, frontTraced⟩ := List.forall_mem_cons.1 frontTraced
      rcases processed : (node.process engine scope).on journal with
        ⟨fault | ⟨fields, children⟩, between⟩
      · exact ⟨1, .error fault, between, .stopped processed, Action.on_bind_of_error processed⟩
      · have childrenTraced : TracedAt given (depth + 1) children := fun child mem =>
          isDepth ▸ isTraced.of_process rulesWithin processed mem
        have behind : TracedAt given (depth + 1) (back ++ children) :=
          List.forall_mem_append.2 ⟨backTraced, childrenTraced⟩
        obtain ⟨steps, outcome, after, rest, agrees⟩ :=
          inductionHypothesis frontTraced behind between
        rw [← List.append_assoc] at rest
        refine ⟨steps + 1, _, after, .taken processed rest, ?_⟩
        rw [processFront, Action.on_bind_of_ok processed, Action.on_bind, agrees]
        cases outcome <;> rfl

/-- Processing a queue comes to what the worklist comes to, if all nodes are equally far
down and the fuel reaches beyond the longest path. -/
theorem follows_processQueue
    {given : List String}
    (rulesWithin : engine.rules.categories.Within given)
    {fuel depth : Nat}
    (enough : fuel + depth = 2 * given.length + 1)
    (traced : TracedAt given depth queue)
    (journal : Journal) :
    Follows engine scope (processQueue engine scope fuel queue) queue journal := by
  induction fuel generalizing depth queue journal with
  | zero =>
      cases queue with
      | nil => exact ⟨0, .ok [], journal, .empty journal, rfl⟩
      | cons node queue =>
          -- The fuel is used up only below the deepest node that there can be.
          obtain ⟨isTraced, isDepth⟩ := traced node List.mem_cons_self
          have bound := isTraced.length_ancestors_le
          omega
  | succ fuel inductionHypothesis =>
      cases queue with
      | nil => exact ⟨0, .ok [], journal, .empty journal, rfl⟩
      | cons node queue =>
          have goesOn (later : List AdvantageNode) (between : Journal)
              (laterTraced : TracedAt given (depth + 1) later) :=
            inductionHypothesis (by omega) laterTraced between
          have taken := follows_processFront rulesWithin goesOn traced
            (List.forall_mem_nil _) journal
          rwa [List.append_nil] at taken

end AdvantageNode

namespace MeritTree

open AdvantageNode

variable {engine : Engine} {scope : Scope} {merits : List Value}
  {roots : List AdvantageNode}

/-- Listed nodes as a tree. -/
def ofListing (listing : List (AdvantageNode × Fields)) : MeritTree :=
  ⟨ofKind .merit (kinds listing), ofKind .variation (kinds listing)⟩

/-- Without a key in each of the merits nothing is processed. -/
theorem on_process_of_error
    {fault : Fault}
    (noKey : merits.mapM ofMerit = .error fault)
    (journal : Journal) :
    (process engine scope merits).on journal = (.error fault, journal) := by
  unfold process
  rw [noKey]
  rfl

/-- Processing merits comes to what the worklist of their nodes comes to. -/
theorem on_process_of_ok
    (areRoots : merits.mapM ofMerit = .ok roots)
    (journal : Journal) :
    ∃ steps outcome after,
      Worklist engine scope roots journal steps outcome after ∧
      (process engine scope merits).on journal = (outcome.map ofListing, after) := by
  have rulesWithin : engine.rules.categories.Within
      (Value.itemsTexts merits ++ Value.fieldsTexts engine.rules.categories) :=
    fun field mem text held =>
      List.mem_append_right _ (Value.mem_fieldsTexts.2 ⟨field, mem, held⟩)
  have enough : longestPath engine.rules merits + 0 =
      2 * (Value.itemsTexts merits ++ Value.fieldsTexts engine.rules.categories).length + 1 := by
    rw [List.length_append, Value.length_itemsTexts, Value.length_fieldsTexts]
    rfl
  have traced : TracedAt
      (Value.itemsTexts merits ++ Value.fieldsTexts engine.rules.categories) 0 roots := by
    intro root mem
    obtain ⟨merit, meritMem, isRoot⟩ := exists_of_mem_of_forall₂ (mapM_eq_ok_iff.1 areRoots) mem
    have rooted := rootOf_of_ofMerit isRoot
    refine ⟨.of_rootOf (fun text held => ?_) rooted, by rw [rooted.ancestors_eq]; rfl⟩
    exact List.mem_append_left _ (Value.mem_itemsTexts.2 ⟨merit, meritMem, held⟩)
  obtain ⟨steps, outcome, after, run, agrees⟩ :=
    follows_processQueue rulesWithin enough traced journal
  refine ⟨steps, outcome, after, run, ?_⟩
  unfold process
  rw [areRoots, Action.on_bind_of_ok (Action.on_check _ _), Action.on_bind, agrees]
  cases outcome <;> rfl

/-- A processed tree is what the worklist of the merits lists. -/
theorem exists_worklist_of_process
    {tree : MeritTree}
    {journal after : Journal}
    (processed : (process engine scope merits).on journal = (.ok tree, after)) :
    ∃ roots steps listing,
      merits.mapM ofMerit = .ok roots ∧
      Worklist engine scope roots journal steps (.ok listing) after ∧
      tree = ofListing listing := by
  cases areRoots : merits.mapM ofMerit with
  | error fault =>
      rw [on_process_of_error areRoots] at processed
      cases processed
  | ok roots =>
      obtain ⟨steps, outcome, _, run, agrees⟩ := on_process_of_ok areRoots journal
      rw [agrees, Prod.mk.injEq] at processed
      obtain ⟨isTree, rfl⟩ := processed
      cases outcome with
      | error fault => cases isTree
      | ok listing => exact ⟨roots, steps, listing, rfl, run, (Except.ok.inj isTree).symm⟩

end MeritTree
end CharacterSheet
