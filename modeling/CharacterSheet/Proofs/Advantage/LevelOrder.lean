import CharacterSheet.Advantage.Tree

/-!
# Forests in level order

The advantages of a character and what they grant are a forest. In level order come the
roots, then their children, then the children of these, each level from left to right.
That is also the order of a queue (`AdvantageTree.levelOrder_cons`): after the first
tree come the other ones and then its children.
-/

namespace CharacterSheet

/-- A processed advantage with the advantages that it granted. -/
structure AdvantageTree where
  node : AdvantageNode
  fields : Fields
  children : List AdvantageTree

namespace AdvantageTree

variable {tree child : AdvantageTree} {forest : List AdvantageTree} {depth count : Nat}

/-- The trees at a depth below the roots, from left to right. -/
def level : Nat → List AdvantageTree → List AdvantageTree
  | 0, forest => forest
  | depth + 1, forest => level depth (forest.flatMap children)

mutual

/-- The number of levels of a tree. -/
def height : AdvantageTree → Nat
  | ⟨_, _, children⟩ => forestHeight children + 1

/-- The number of levels of a forest. -/
def forestHeight : List AdvantageTree → Nat
  | [] => 0
  | tree :: forest => max (height tree) (forestHeight forest)

end

/-- The trees of the first levels, level after level. -/
def upTo (count : Nat) (forest : List AdvantageTree) : List AdvantageTree :=
  (List.range count).flatMap fun depth => level depth forest

/-- All trees of a forest, level after level. -/
def levelOrder (forest : List AdvantageTree) : List AdvantageTree :=
  upTo (forestHeight forest) forest

theorem level_append (depth : Nat) (first second : List AdvantageTree) :
    level depth (first ++ second) = level depth first ++ level depth second := by
  induction depth generalizing first second with
  | zero => rfl
  | succ depth inductionHypothesis =>
      rw [level, List.flatMap_append, inductionHypothesis]
      rfl

/-- A level is made of the children of the level before. -/
theorem level_succ (depth : Nat) (forest : List AdvantageTree) :
    level (depth + 1) forest = (level depth forest).flatMap children := by
  induction depth generalizing forest with
  | zero => rfl
  | succ depth inductionHypothesis => exact inductionHypothesis (forest.flatMap children)

theorem height_eq (tree : AdvantageTree) : tree.height = forestHeight tree.children + 1 := by
  obtain ⟨node, fields, children⟩ := tree
  rw [height]

theorem forestHeight_append (first second : List AdvantageTree) :
    forestHeight (first ++ second) = max (forestHeight first) (forestHeight second) := by
  induction first with
  | nil => simp [forestHeight]
  | cons tree first inductionHypothesis =>
      rw [List.cons_append, forestHeight, forestHeight, inductionHypothesis]
      omega

theorem forestHeight_flatMap_children (forest : List AdvantageTree) :
    forestHeight (forest.flatMap children) = forestHeight forest - 1 := by
  induction forest with
  | nil => rfl
  | cons tree forest inductionHypothesis =>
      rw [List.flatMap_cons, forestHeight_append, inductionHypothesis, forestHeight, height_eq]
      omega

/-- There is no tree below the last level. -/
theorem level_eq_nil (beyond : forestHeight forest ≤ depth) : level depth forest = [] := by
  induction depth generalizing forest with
  | zero =>
      cases forest with
      | nil => rfl
      | cons tree forest =>
          rw [forestHeight, height_eq] at beyond
          omega
  | succ depth inductionHypothesis =>
      apply inductionHypothesis
      rw [forestHeight_flatMap_children]
      omega

theorem upTo_succ (count : Nat) (forest : List AdvantageTree) :
    upTo (count + 1) forest = upTo count forest ++ level count forest := by
  simp [upTo, List.range_succ, List.flatMap_append]

/-- Levels below the last one add nothing. -/
theorem upTo_eq_levelOrder (enough : forestHeight forest ≤ count) :
    upTo count forest = levelOrder forest := by
  induction enough with
  | refl => rfl
  | step enough inductionHypothesis =>
      rw [upTo_succ, inductionHypothesis, level_eq_nil enough, List.append_nil]

/-- Taking the first tree from a queue moves its children one level up: the levels of the
queue, with one level more of these children, are the first tree and the levels of what
the queue then is. -/
theorem upTo_cons (count : Nat) (tree : AdvantageTree) (forest : List AdvantageTree) :
    upTo (count + 1) (tree :: forest) ++ level count tree.children =
      tree :: upTo (count + 1) (forest ++ tree.children) := by
  induction count with
  | zero => simp [upTo, level]
  | succ count inductionHypothesis =>
      -- The extra level on the left is what the next level of the forest begins with.
      have below : level (count + 1) (tree :: forest) =
          level count tree.children ++ level (count + 1) forest := by
        rw [level, List.flatMap_cons, level_append]
        rfl
      rw [upTo_succ (count + 1) (tree :: forest), below, ← List.append_assoc,
        inductionHypothesis, upTo_succ (count + 1), level_append]
      simp

/-- After the first tree come the other ones and then its children. -/
theorem levelOrder_cons (tree : AdvantageTree) (forest : List AdvantageTree) :
    levelOrder (tree :: forest) = tree :: levelOrder (forest ++ tree.children) := by
  have split := upTo_cons (forestHeight (tree :: forest)) tree forest
  have high : forestHeight (tree :: forest) =
      max (forestHeight tree.children + 1) (forestHeight forest) := by
    rw [forestHeight, height_eq]
  have rest := forestHeight_append forest tree.children
  rwa [upTo_eq_levelOrder (by omega), upTo_eq_levelOrder (by omega), level_eq_nil (by omega),
    List.append_nil] at split

theorem mem_levelOrder : tree ∈ levelOrder forest ↔ ∃ depth, tree ∈ level depth forest := by
  unfold levelOrder upTo
  rw [List.mem_flatMap]
  constructor
  · rintro ⟨depth, -, mem⟩
    exact ⟨depth, mem⟩
  · rintro ⟨depth, mem⟩
    refine ⟨depth, List.mem_range.2 (Nat.lt_of_not_le fun beyond => ?_), mem⟩
    rw [level_eq_nil beyond] at mem
    cases mem

/-- With a tree its children are in a forest. -/
theorem mem_levelOrder_of_mem_children
    (mem : tree ∈ levelOrder forest)
    (isChild : child ∈ tree.children) :
    child ∈ levelOrder forest := by
  obtain ⟨depth, atDepth⟩ := mem_levelOrder.1 mem
  refine mem_levelOrder.2 ⟨depth + 1, ?_⟩
  rw [level_succ]
  exact List.mem_flatMap.2 ⟨tree, atDepth, isChild⟩

end AdvantageTree
end CharacterSheet
