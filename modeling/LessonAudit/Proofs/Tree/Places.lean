import Mathlib.Data.List.Induction
import LessonAudit.Proofs.Tree.Demands
import LessonAudit.Proofs.Tree.Search
set_option autoImplicit false

namespace LessonAudit.Tree

namespace Node

def at? : Node → List Nat → Option Node
  | n, [] => some n
  | n, i :: place => n.children[i]?.bind fun child => child.at? place

def among? (trees : List Node) : List Nat → Option Node
  | [] => none
  | i :: place => trees[i]?.bind fun tree => tree.at? place

theorem at?_cons (n : Node) (i : Nat) (place : List Nat) :
    n.at? (i :: place) = among? n.children (i :: place) := by
  rw [at?, among?]

theorem among?_concat (trees : List Node) (c : Node) (i : Nat) (place : List Nat) :
    among? (trees ++ [c]) (i :: place) =
      if i = trees.length then c.at? place else among? trees (i :: place) := by
  rw [among?, among?, List.getElem?_append]
  by_cases before : i < trees.length
  · rw [if_pos before, if_neg (Nat.ne_of_lt before)]
  · by_cases last : i = trees.length
    · simp [last]
    · have behind : i - trees.length ≠ 0 := by omega
      have outside : trees[i]? = none := List.getElem?_eq_none (Nat.not_lt.1 before)
      rw [if_neg before, if_neg last, outside, List.getElem?_singleton, if_neg behind]

theorem lt_length_of_among? {trees : List Node} {i : Nat} {place : List Nat} {n : Node}
    (found : among? trees (i :: place) = some n) : i < trees.length := by
  obtain ⟨tree, present, -⟩ := Option.bind_eq_some_iff.1 found
  exact (List.getElem?_eq_some_iff.1 present).1

theorem findAll_eq (p : Pattern) (n : Node) :
    n.findAll p = (if p.admits (.node n) then [n] else []) ++ findAmong p n.children := by
  obtain ⟨kind, attr, options, children, extra⟩ := n
  rw [findAll]
  split <;> rfl

theorem findAmong_concat (p : Pattern) (trees : List Node) (c : Node) :
    findAmong p (trees ++ [c]) = findAmong p trees ++ c.findAll p := by
  induction trees with
  | nil => simp [findAmong]
  | cons tree more ih => simp [findAmong, ih]

theorem sizeOf_lt_of_mem {child n : Node} (member : child ∈ n.children) :
    sizeOf child < sizeOf n := by
  cases n with
  | mk kind attr options children extra =>
      have smaller : sizeOf child < sizeOf children := List.sizeOf_lt_of_mem member
      simp only [mk.sizeOf_spec]
      omega

theorem children_induction {motive : Node → Prop}
    (step : ∀ n, (∀ child ∈ n.children, motive child) → motive n) (n : Node) : motive n :=
  step n fun child _ => children_induction step child
termination_by sizeOf n
decreasing_by exact sizeOf_lt_of_mem ‹_›

end Node

/-- The places of the nodes that match, in the order in which a tree is written: a node comes before
all below it, and what is below one child before the next child. -/
structure Located (at? : List Nat → Option Node) (p : Pattern) (places : List (List Nat))
    (found : List Node) : Prop where
  ordered : places.Pairwise (· < ·)
  mem_iff : ∀ place, place ∈ places ↔ ∃ n, at? place = some n ∧ p.admits (.node n) = true
  found_eq : found.map some = places.map at?

namespace Located

variable {p : Pattern} {trees : List Node} {n c : Node} {places inner : List (List Nat)}
  {found found' : List Node}

theorem empty : Located (Node.among? []) p [] [] where
  ordered := .nil
  mem_iff place := by cases place <;> simp [Node.among?]
  found_eq := rfl

theorem starts (located : Located (Node.among? trees) p places found) {place : List Nat}
    (member : place ∈ places) : ∃ i rest, place = i :: rest ∧ i < trees.length := by
  obtain ⟨n, present, -⟩ := (located.mem_iff place).1 member
  cases place with
  | nil => cases present
  | cons i rest => exact ⟨i, rest, rfl, Node.lt_length_of_among? present⟩

theorem nil_not_mem (located : Located (Node.among? trees) p places found) : [] ∉ places := by
  intro member
  obtain ⟨i, rest, same, -⟩ := located.starts member
  cases same

theorem last_not_mem (located : Located (Node.among? trees) p places found) (rest : List Nat) :
    trees.length :: rest ∉ places := by
  intro member
  obtain ⟨_, _, same, inside⟩ := located.starts member
  cases same
  exact Nat.lt_irrefl _ inside

theorem ordered_concat (located : Located (Node.among? trees) p places found)
    (last : Located c.at? p inner found') :
    (places ++ inner.map (trees.length :: ·)).Pairwise (· < ·) := by
  refine List.pairwise_append.2 ⟨located.ordered, ?_, ?_⟩
  · exact List.pairwise_map.2 (last.ordered.imp fun before => List.cons_lt_cons_self.2 before)
  · intro place member other behind
    obtain ⟨i, rest, rfl, inside⟩ := located.starts member
    obtain ⟨tail, -, rfl⟩ := List.mem_map.1 behind
    exact List.cons_lt_cons_iff.2 (.inl inside)

theorem mem_concat_iff (located : Located (Node.among? trees) p places found)
    (last : Located c.at? p inner found') (place : List Nat) :
    place ∈ places ++ inner.map (trees.length :: ·) ↔
      ∃ n, Node.among? (trees ++ [c]) place = some n ∧ p.admits (.node n) = true := by
  cases place with
  | nil => simp [located.nil_not_mem, Node.among?]
  | cons i rest =>
      rw [List.mem_append, List.mem_map, Node.among?_concat]
      by_cases here : i = trees.length
      · subst here
        simp [located.last_not_mem, last.mem_iff]
      · have elsewhere : trees.length ≠ i := Ne.symm here
        simp [here, elsewhere, located.mem_iff]

theorem concat (located : Located (Node.among? trees) p places found)
    (last : Located c.at? p inner found') :
    Located (Node.among? (trees ++ [c])) p (places ++ inner.map (trees.length :: ·))
      (found ++ found') where
  ordered := located.ordered_concat last
  mem_iff := located.mem_concat_iff last
  found_eq := by
    have first : places.map (Node.among? (trees ++ [c])) = places.map (Node.among? trees) := by
      refine List.map_congr_left fun place member => ?_
      obtain ⟨i, rest, rfl, inside⟩ := located.starts member
      rw [Node.among?_concat, if_neg (Nat.ne_of_lt inside)]
    have second : (inner.map (trees.length :: ·)).map (Node.among? (trees ++ [c])) =
        inner.map c.at? := by
      rw [List.map_map]
      refine List.map_congr_left fun place _ => ?_
      simp [Node.among?_concat]
    rw [List.map_append, List.map_append, first, second, located.found_eq, last.found_eq]

theorem root (located : Located (Node.among? n.children) p places found) :
    Located n.at? p ((if p.admits (.node n) then [[]] else []) ++ places)
      ((if p.admits (.node n) then [n] else []) ++ found) where
  ordered := by
    refine List.pairwise_append.2 ⟨by split <;> simp, located.ordered, ?_⟩
    intro place member other behind
    obtain ⟨i, rest, rfl, -⟩ := located.starts behind
    have first : place = [] := by
      split at member <;> simp_all
    rw [first]
    exact List.nil_lt_cons i rest
  mem_iff place := by
    cases place with
    | nil => by_cases admitted : p.admits (.node n) = true <;>
        simp [admitted, located.nil_not_mem, Node.at?]
    | cons i rest =>
        rw [Node.at?_cons, List.mem_append, located.mem_iff]
        split <;> simp
  found_eq := by
    have deeper : places.map n.at? = places.map (Node.among? n.children) := by
      refine List.map_congr_left fun place member => ?_
      obtain ⟨i, rest, rfl, -⟩ := located.starts member
      exact n.at?_cons i rest
    rw [List.map_append, List.map_append, located.found_eq, deeper]
    split <;> simp [Node.at?]

theorem exists_among {trees : List Node}
    (each : ∀ tree ∈ trees, ∃ places, Located tree.at? p places (tree.findAll p)) :
    ∃ places, Located (Node.among? trees) p places (Node.findAmong p trees) := by
  induction trees using List.reverseRecOn with
  | nil => exact ⟨[], empty⟩
  | append_singleton trees c ih =>
      obtain ⟨places, located⟩ := ih fun tree member => each tree (List.mem_append_left _ member)
      obtain ⟨inner, last⟩ := each c (List.mem_append_right _ List.mem_cons_self)
      rw [Node.findAmong_concat]
      exact ⟨_, located.concat last⟩

end Located

namespace Node

theorem admits_with_children (p : Pattern) (n : Node) (children : List Node) :
    p.admits (.node { n with children := children }) = p.admits (.node n) :=
  Pattern.admits_congr fun _ => rfl

theorem exists_located (p : Pattern) (tree : Node) :
    ∃ places, Located tree.at? p places (tree.findAll p) := by
  induction tree using children_induction with
  | step n ih =>
      obtain ⟨places, located⟩ := Located.exists_among ih
      rw [findAll_eq]
      exact ⟨_, located.root⟩

theorem exists_located_below (p : Pattern) (n : Node) :
    ∃ places, Located (among? n.children) p places (findAmong p n.children) :=
  Located.exists_among fun child _ => exists_located p child

end Node

/-- A search finds the nodes of a tree that match, wherever they stand and in the order in which the
tree is written. What is found with one more child is what was found without it, in the same places
and the same order, and then what is found in the child. -/
theorem Node.findAll_located (p : Pattern) (t c : Node) :
    t.findAll p = t.preorder.filter (fun n => p.admits (.node n)) ∧
      (∃ places inner, Located t.at? p places (t.findAll p) ∧ Located c.at? p inner (c.findAll p) ∧
        Located (t.withChild c).at? p (places ++ inner.map (t.children.length :: ·))
          ((t.withChild c).findAll p)) ∧
      (∀ children, p.admits (.node { t with children := children }) = p.admits (.node t)) ∧
      ∃ below,
        t.findAll p = (if p.admits (.node t) then [t] else []) ++ below ∧
        (t.withChild c).findAll p =
          (if p.admits (.node t) then [t.withChild c] else []) ++ (below ++ c.findAll p) := by
  have same : p.admits (.node (t.withChild c)) = p.admits (.node t) :=
    admits_with_children p t _
  have with_child : (t.withChild c).findAll p =
      (if p.admits (.node t) then [t.withChild c] else []) ++
        (findAmong p t.children ++ c.findAll p) := by
    rw [findAll_eq, same, withChild, findAmong_concat]
  refine ⟨findAll_eq_filter p t, ?_, admits_with_children p t, findAmong p t.children,
    findAll_eq p t, with_child⟩
  obtain ⟨places, located⟩ := exists_located_below p t
  obtain ⟨inner, last⟩ := exists_located p c
  have whole : Located t.at? p _ (t.findAll p) := findAll_eq p t ▸ located.root
  refine ⟨_, inner, whole, last, ?_⟩
  have longer : Located (t.withChild c).at? p _ _ := Located.root (located.concat last)
  rw [same] at longer
  rwa [with_child, List.append_assoc]

example :
    let quote (line : Nat) := (Node.ofKind "blockquote").withLocation line
    let tree := ((quote 1).withChild (((quote 2).withChild (quote 3)).withChild
      (Node.ofKind "codeblock"))).withChild (quote 4)
    (tree.findAll (.ofKind "blockquote")).map Node.location = [some 1, some 2, some 3, some 4] := by
  decide

end LessonAudit.Tree
