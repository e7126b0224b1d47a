import CharacterSheet.Proofs.Advantage.Processing
import Mathlib.Data.List.ProdSigma
import Mathlib.Data.List.Perm.Subperm

/-!
# What an advantage grants

The children of a processed advantage are the entries of two of its fields, one for
each in order (`AdvantageNode.grantedBy_of_children`). Processing computes neither of
the two, so the key of a child is a text of the data. On a path that repeats nothing
there are then at most twice as many nodes as texts
(`AdvantageNode.Traced.length_ancestors_le`).
-/

namespace CharacterSheet
namespace AdvantageNode

variable {engine : Engine} {scope : Scope} {journal after : Journal}
  {node child : AdvantageNode} {children : List AdvantageNode} {fields : Fields}
  {given : List String}

/-- The entries of a field that grants advantages. -/
def entries (field : String) (fields : Fields) : List Value :=
  ((Fields.get? field fields).bind Value.items?).getD []

/-- What the fields of an advantage grant: merits, then variations. -/
def grants (fields : Fields) : List (AdvantageKind × Value) :=
  (entries "secondaryMerits" fields).map (AdvantageKind.merit, ·) ++
    (entries "secondaryVariations" fields).map (AdvantageKind.variation, ·)

/-- The node is that of a merit of the character. -/
structure RootOf (merit : Value) (node : AdvantageNode) : Prop where
  kind_eq : node.kind = .merit
  input_eq : node.input = merit
  key_eq : merit.textField? "key" = some node.key
  ancestors_eq : node.ancestors = []

theorem rootOf_of_ofMerit
    {merit : Value}
    (isNode : ofMerit merit = .ok node) :
    RootOf merit node := by
  unfold ofMerit at isNode
  split at isNode
  · next key isKey =>
      cases isNode
      exact ⟨rfl, rfl, isKey, rfl⟩
  · cases isNode

/-- The child is what the parent grants by the entry. -/
structure GrantedBy
    (parent : AdvantageNode)
    (entry : AdvantageKind × Value)
    (child : AdvantageNode) : Prop where
  kind_eq : child.kind = entry.1
  input_eq : grantedInput? parent.key entry.2 = some child.input
  key_eq : child.input.textField? "key" = some child.key
  ancestors_eq : child.ancestors = parent.label :: parent.ancestors

/-- The record of a child names its parent. -/
theorem GrantedBy.parentKey
    {entry : AdvantageKind × Value}
    (granted : node.GrantedBy entry child) :
    child.input.field? "parentKey" = some (.string node.key) := by
  have isInput := granted.input_eq
  unfold grantedInput? at isInput
  split at isInput
  · rw [← Option.some.inj isInput]
    rfl
  · rw [← Option.some.inj isInput]
    exact Fields.get?_insert_self _ _ _
  · cases isInput

theorem grantedBy_of_granted
    {field : String}
    {kind : AdvantageKind}
    {entry : Value}
    (isGranted : node.granted field kind entry = .ok child) :
    node.GrantedBy (kind, entry) child := by
  unfold granted at isGranted
  split at isGranted
  · cases isGranted
  · next input isInput =>
      split at isGranted
      · cases isGranted
      · next key isKey =>
          cases isGranted
          exact ⟨rfl, isInput, isKey, rfl⟩

theorem grantedIn_eq
    (node : AdvantageNode)
    (fields : Fields)
    (field : String)
    (kind : AdvantageKind) :
    node.grantedIn fields field kind =
      (entries field fields).mapM (node.granted field kind) := by
  unfold grantedIn entries
  rcases Fields.get? field fields with none | value
  · rfl
  · cases value <;> rfl

theorem grantedBy_of_grantedIn
    {field : String}
    {kind : AdvantageKind}
    (areGranted : node.grantedIn fields field kind = .ok children) :
    List.Forall₂ node.GrantedBy ((entries field fields).map (kind, ·)) children := by
  rw [grantedIn_eq, mapM_eq_ok_iff] at areGranted
  rw [List.forall₂_map_left_iff]
  exact areGranted.imp fun _ _ isGranted => grantedBy_of_granted isGranted

/-- The children of an advantage are the entries of what it grants, one for each. -/
theorem grantedBy_of_children
    (areChildren : node.children fields = .ok children) :
    List.Forall₂ node.GrantedBy (grants fields) children := by
  unfold AdvantageNode.children grantFields at areChildren
  obtain ⟨granted, areGranted, joined⟩ := bind_eq_ok_iff.1 areChildren
  obtain ⟨merits, others, areMerits, areOthers, rfl⟩ := mapM_cons_eq_ok_iff.1 areGranted
  obtain ⟨variations, none, areVariations, isNone, rfl⟩ := mapM_cons_eq_ok_iff.1 areOthers
  cases isNone
  cases joined
  have granted := List.rel_append (grantedBy_of_grantedIn areMerits)
    (grantedBy_of_grantedIn areVariations)
  simpa [grants] using granted

/-- Listing the keys of the children changes no other field. -/
theorem sameBeyond_withChildKeys (children : List AdvantageNode) (fields : Fields) :
    Fields.SameBeyond ["secondaryKeys"] fields (withChildKeys children fields) := by
  unfold withChildKeys
  split
  · exact .refl _ _
  · exact (Fields.SameBeyond.refl _ _).insert (by decide) _

@[simp] theorem grants_withChildKeys (children : List AdvantageNode) (fields : Fields) :
    grants (withChildKeys children fields) = grants fields := by
  have same := sameBeyond_withChildKeys children fields
  unfold grants entries
  rw [same "secondaryMerits" (by decide), same "secondaryVariations" (by decide)]

/-- The keys of the children are listed, if there are any. -/
theorem get?_withChildKeys
    (some : children ≠ [])
    (fields : Fields) :
    Fields.get? "secondaryKeys" (withChildKeys children fields) =
      .some (.array (children.map fun child => .string child.key)) := by
  unfold withChildKeys
  rw [if_neg (by simpa using some)]
  exact Fields.get?_insert_self _ _ _

/-- A node is processed if it is not on the path to it, and then has the fields of the
processed record and its children. -/
theorem on_process_eq_ok
    (processed : (process engine scope node).on journal = (.ok (fields, children), after)) :
    node.label ∉ node.ancestors ∧
      ∃ own,
        (Advantage.process node.kind engine scope node.input).on journal =
          (.ok own, after) ∧
        node.children own = .ok children ∧
        fields = withChildKeys children own := by
  unfold process at processed
  dsimp only at processed
  split at processed
  · cases processed
  · next fresh =>
      obtain ⟨own, between, isOwn, processed⟩ := Action.on_bind_eq_ok_iff.1 processed
      obtain ⟨found, _, isFound, processed⟩ := Action.on_bind_eq_ok_iff.1 processed
      rw [Action.on_check, Prod.mk.injEq] at isFound
      obtain ⟨isFound, rfl⟩ := isFound
      cases processed
      exact ⟨by simpa using fresh, own, isOwn, isFound, rfl⟩

theorem within_of_mem_entries
    {field : String}
    (within : ∀ value, Fields.get? field fields = some value → value.Within given)
    {entry : Value}
    (mem : entry ∈ entries field fields) :
    entry.Within given := by
  unfold entries at mem
  cases found : Fields.get? field fields with
  | none =>
      rw [found] at mem
      cases mem
  | some value =>
      rw [found] at mem
      cases value with
      | array items => exact Value.within_array.1 (within _ found) entry mem
      | _ => cases mem

theorem within_of_grantedInput?
    {key : String}
    {entry input : Value}
    (keyMem : key ∈ given)
    (entryWithin : entry.Within given)
    (isInput : grantedInput? key entry = some input) :
    input.Within given := by
  have parent := Value.within_string.2 keyMem
  unfold grantedInput? at isInput
  split at isInput
  · rw [← Option.some.inj isInput]
    refine Value.within_object.2 (Fields.Within.insertAll ?_ ?_)
    · exact .nil
    · simpa [Fields.Within] using ⟨Value.within_string.1 entryWithin, keyMem⟩
  · rw [← Option.some.inj isInput]
    exact Value.within_object.2 ((Value.within_object.1 entryWithin).insert parent _)
  · cases isInput

/-- The node has only given texts, and so has the path to it, on which nothing occurs
twice. -/
structure Traced (given : List String) (node : AdvantageNode) : Prop where
  kind_mem : node.kind ∈ [AdvantageKind.merit, .variation]
  key_mem : node.key ∈ given
  input_within : node.input.Within given
  ancestors_subset : node.ancestors ⊆ [AdvantageKind.merit, .variation] ×ˢ given
  ancestors_nodup : node.ancestors.Nodup

namespace Traced

theorem length_ancestors_le (traced : node.Traced given) :
    node.ancestors.length ≤ 2 * given.length :=
  calc node.ancestors.length
    _ ≤ ([AdvantageKind.merit, .variation] ×ˢ given).length :=
        (List.subperm_of_subset traced.ancestors_nodup traced.ancestors_subset).length_le
    _ = 2 * given.length := List.length_product _ _

theorem of_rootOf
    {merit : Value}
    (within : merit.Within given)
    (root : RootOf merit node) :
    node.Traced given := by
  refine ⟨?_, within.textField? root.key_eq, root.input_eq ▸ within, ?_, ?_⟩
  · rw [root.kind_eq]
    exact List.mem_cons_self
  · rw [root.ancestors_eq]
    exact List.nil_subset _
  · rw [root.ancestors_eq]
    exact List.nodup_nil

/-- What a node grants is traced when the node is and its entries have only given texts. -/
theorem of_grantedBy
    (traced : node.Traced given)
    (fresh : node.label ∉ node.ancestors)
    {entry : AdvantageKind × Value}
    (kind_mem : entry.1 ∈ [AdvantageKind.merit, .variation])
    (entryWithin : entry.2.Within given)
    (granted : node.GrantedBy entry child) :
    child.Traced given := by
  have within := within_of_grantedInput? traced.key_mem entryWithin granted.input_eq
  refine ⟨granted.kind_eq ▸ kind_mem, within.textField? granted.key_eq, within, ?_, ?_⟩
  · rw [granted.ancestors_eq]
    exact List.cons_subset.2
      ⟨List.mem_product.2 ⟨traced.kind_mem, traced.key_mem⟩, traced.ancestors_subset⟩
  · rw [granted.ancestors_eq]
    exact List.nodup_cons.2 ⟨fresh, traced.ancestors_nodup⟩

/-- What a traced node grants has only given texts, as processing computes none of it. -/
theorem within_of_mem_grants
    (rulesWithin : engine.rules.categories.Within given)
    (traced : node.Traced given)
    (processed : (Advantage.process node.kind engine scope node.input).on journal =
      (.ok fields, after))
    {entry : AdvantageKind × Value}
    (mem : entry ∈ grants fields) :
    entry.1 ∈ [AdvantageKind.merit, .variation] ∧ entry.2.Within given := by
  have carried {field : String}
      (notOwn : field ∉ AdvantageRecord.ownFields)
      (plain : field ∉ Advantage.computedNames)
      (entryMem : entry.2 ∈ entries field fields) :
      entry.2.Within given := by
    refine within_of_mem_entries (fun value found => ?_) entryMem
    exact Advantage.within_of_process rulesWithin traced.input_within processed notOwn plain found
  rcases List.mem_append.1 mem with merit | variation
  · obtain ⟨value, valueMem, rfl⟩ := List.mem_map.1 merit
    exact ⟨List.mem_cons_self, carried (by decide) (by decide) valueMem⟩
  · obtain ⟨value, valueMem, rfl⟩ := List.mem_map.1 variation
    exact ⟨List.mem_cons_of_mem _ List.mem_cons_self,
      carried (by decide) (by decide) valueMem⟩

/-- The children of a traced node are traced, one step further down. -/
theorem of_process
    (rulesWithin : engine.rules.categories.Within given)
    (traced : node.Traced given)
    (processed : (process engine scope node).on journal = (.ok (fields, children), after))
    (mem : child ∈ children) :
    child.Traced given ∧ child.ancestors.length = node.ancestors.length + 1 := by
  obtain ⟨fresh, own, isOwn, areChildren, -⟩ := on_process_eq_ok processed
  obtain ⟨entry, entryMem, granted⟩ :=
    exists_of_mem_of_forall₂ (grantedBy_of_children areChildren) mem
  obtain ⟨kindMem, entryWithin⟩ := within_of_mem_grants rulesWithin traced isOwn entryMem
  refine ⟨traced.of_grantedBy fresh kindMem entryWithin granted, ?_⟩
  rw [granted.ancestors_eq, List.length_cons]

end Traced

end AdvantageNode
end CharacterSheet
