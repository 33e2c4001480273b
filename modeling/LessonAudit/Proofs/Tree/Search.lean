import LessonAudit.Tree.Pattern
set_option autoImplicit false

namespace LessonAudit.Tree.Node

inductive Within (n : Node) : Node → Prop where
  | root : Within n n
  | child {tree child : Node} (member : child ∈ tree.children) (inside : Within n child) :
      Within n tree

theorem mem_preorderAll_iff {n : Node} {trees : List Node} :
    n ∈ preorderAll trees ↔ ∃ tree ∈ trees, n ∈ tree.preorder := by
  induction trees with
  | nil => simp [preorderAll]
  | cons tree more ih => simp [preorderAll, ih]

theorem preorder_eq (tree : Node) : tree.preorder = tree :: preorderAll tree.children := by
  cases tree
  rfl

theorem mem_preorder_of_within {n tree : Node} (inside : Within n tree) : n ∈ tree.preorder := by
  induction inside with
  | root => simp [preorder_eq]
  | child member _ ih =>
      rw [preorder_eq]
      exact List.mem_cons_of_mem _ (mem_preorderAll_iff.2 ⟨_, member, ih⟩)

mutual

theorem within_of_mem_preorder {n : Node} : (tree : Node) → n ∈ tree.preorder → Within n tree
  | ⟨kind, attr, options, children, extra⟩, member => by
      rcases List.mem_cons.1 member with rfl | below
      · exact .root
      · obtain ⟨child, child_member, inside⟩ := within_of_mem_preorderAll children below
        exact .child child_member inside

theorem within_of_mem_preorderAll {n : Node} :
    (trees : List Node) → n ∈ preorderAll trees → ∃ tree ∈ trees, Within n tree
  | [], member => by simp [preorderAll] at member
  | tree :: more, member => by
      rcases List.mem_append.1 member with first | later
      · exact ⟨tree, List.mem_cons_self, within_of_mem_preorder tree first⟩
      · obtain ⟨other, other_member, inside⟩ := within_of_mem_preorderAll more later
        exact ⟨other, List.mem_cons_of_mem _ other_member, inside⟩

end

theorem mem_preorder_iff {n tree : Node} : n ∈ tree.preorder ↔ Within n tree :=
  ⟨within_of_mem_preorder tree, mem_preorder_of_within⟩

mutual

theorem findAll_eq_filter (pattern : Pattern) :
    (tree : Node) → tree.findAll pattern = tree.preorder.filter fun n => pattern.admits (.node n)
  | ⟨kind, attr, options, children, extra⟩ => by
      simp only [findAll, preorder, List.filter_cons, findAmong_eq_filter pattern children]

theorem findAmong_eq_filter (pattern : Pattern) :
    (trees : List Node) →
      findAmong pattern trees = (preorderAll trees).filter fun n => pattern.admits (.node n)
  | [] => rfl
  | tree :: more => by
      simp only [findAmong, preorderAll, List.filter_append, findAll_eq_filter pattern tree,
        findAmong_eq_filter pattern more]

end

theorem mem_findAll_iff {pattern : Pattern} {n tree : Node} :
    n ∈ tree.findAll pattern ↔ Within n tree ∧ pattern.admits (.node n) = true := by
  rw [findAll_eq_filter, List.mem_filter, mem_preorder_iff]

theorem admits_ofKind (kind : String) (n : Node) :
    (Pattern.ofKind kind).admits (.node n) = (n.kind == kind) := by
  simp [Pattern.ofKind, Pattern.withLiteral, Pattern.admits, Record.field]

end LessonAudit.Tree.Node
