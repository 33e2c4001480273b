import LessonAudit.Path
import Mathlib.Data.List.Lex
set_option autoImplicit false

namespace LessonAudit

namespace Part

def Precedes (a b : Part) : Prop :=
  a.rank < b.rank ∨ a.rank = b.rank ∧ a.label < b.label

theorem before_iff {a b : Part} : a.before b = true ↔ a.Precedes b := by
  simp [before, Precedes]

theorem eq_of_rank_of_label {a b : Part} (rank_eq : a.rank = b.rank) (label_eq : a.label = b.label) :
    a = b := by
  cases a <;> cases b <;> simp_all [rank, label]

theorem Precedes.trans {a b c : Part} (first : a.Precedes b) (second : b.Precedes c) :
    a.Precedes c := by
  rcases first with lower | ⟨same, lower⟩
  · left
    rcases second with lower' | ⟨same', -⟩ <;> omega
  · rcases second with lower' | ⟨same', lower'⟩
    · left
      omega
    · exact .inr ⟨same.trans same', List.lt_trans lower lower'⟩

theorem not_precedes_self (a : Part) : ¬ a.Precedes a := by
  rintro (lower | ⟨-, lower⟩)
  · exact Nat.lt_irrefl _ lower
  · exact List.lt_irrefl _ lower

instance : IsStrictTotalOrder Part Precedes where
  irrefl := not_precedes_self
  trans _ _ _ := Precedes.trans
  trichotomous a b not_first not_second := by
    simp only [Precedes, not_or, not_and] at not_first not_second
    have rank_eq : a.rank = b.rank := by omega
    rcases Std.lt_trichotomy a.label b.label with lower | label_eq | higher
    · exact absurd lower (not_first.2 rank_eq)
    · exact eq_of_rank_of_label rank_eq label_eq
    · exact absurd higher (not_second.2 rank_eq.symm)

end Part

namespace Path

def Precedes (p q : Path) : Prop :=
  List.Lex Part.Precedes p.parts q.parts

variable {p q r : Path} {paths found : List Path} {parts : List Part}

theorem partsBefore_iff {left right : List Part} :
    partsBefore left right = true ↔ List.Lex Part.Precedes left right := by
  induction left generalizing right with
  | nil => cases right <;> simp [partsBefore]
  | cons a left ih =>
      cases right with
      | nil => simp [partsBefore]
      | cons b right =>
          by_cases same : a = b
          · subst same
            simp [partsBefore, ih, List.lex_cons_iff]
          · simp only [partsBefore, same, if_false, Part.before_iff]
            constructor
            · exact .rel
            · intro lex
              cases lex with
              | rel lower => exact lower
              | cons _ => exact absurd rfl same

theorem before_iff : p.before q = true ↔ p.Precedes q :=
  partsBefore_iff

theorem same_iff : p.same q = true ↔ p.parts = q.parts :=
  beq_iff_eq

instance : IsStrictWeakOrder (List Part) (List.Lex Part.Precedes) :=
  isStrictWeakOrder_of_isOrderConnected

instance : Std.Asymm Precedes :=
  InvImage.asymm Path.parts

theorem Precedes.trans (first : p.Precedes q) (second : q.Precedes r) : p.Precedes r :=
  trans_of (List.Lex Part.Precedes) first second

theorem Precedes.parts_ne (below : p.Precedes q) : p.parts ≠ q.parts := by
  intro same
  rw [Precedes, same] at below
  exact irrefl_of (List.Lex Part.Precedes) _ below

theorem precedes_of_not (not_below : ¬ p.Precedes q) (differ : p.parts ≠ q.parts) :
    q.Precedes p := by
  rcases trichotomous_of (List.Lex Part.Precedes) p.parts q.parts with below | same | above
  · exact absurd below not_below
  · exact absurd same differ
  · exact above

theorem insert_of_precedes (below : p.Precedes q) (more : List Path) :
    insert p (q :: more) = p :: q :: more := by
  simp [insert, before_iff.2 below]

theorem insert_of_parts_eq (same : p.parts = q.parts) (more : List Path) :
    insert p (q :: more) = q :: more := by
  have not_below : p.before q = false := by
    rw [← Bool.not_eq_true, before_iff]
    exact fun below => below.parts_ne same
  simp [insert, not_below, same_iff.2 same]

theorem insert_of_follows (above : q.Precedes p) (more : List Path) :
    insert p (q :: more) = q :: insert p more := by
  have not_below : p.before q = false := by
    rw [← Bool.not_eq_true, before_iff]
    exact asymm_of Precedes above
  have differ : p.same q = false := by
    rw [← Bool.not_eq_true, same_iff]
    exact fun same => above.parts_ne same.symm
  simp [insert, not_below, differ]

theorem place_mem_insert (p : Path) (found : List Path) :
    parts ∈ (insert p found).map Path.parts ↔ parts = p.parts ∨ parts ∈ found.map Path.parts := by
  induction found with
  | nil => simp [insert]
  | cons q more ih =>
      by_cases below : p.Precedes q
      · simp [insert_of_precedes below]
      · by_cases same : p.parts = q.parts
        · simp [insert_of_parts_eq same, same]
        · rw [insert_of_follows (precedes_of_not below same), List.map_cons, List.mem_cons, ih,
            List.map_cons, List.mem_cons]
          exact or_left_comm

theorem rising_insert (p : Path) (rising : found.Pairwise Precedes) :
    (insert p found).Pairwise Precedes := by
  induction found with
  | nil => exact List.pairwise_singleton ..
  | cons q more ih =>
      obtain ⟨least, rising_more⟩ := List.pairwise_cons.1 rising
      by_cases below : p.Precedes q
      · rw [insert_of_precedes below]
        refine List.pairwise_cons.2 ⟨fun other member => ?_, rising⟩
        rcases List.mem_cons.1 member with rfl | later
        · exact below
        · exact below.trans (least other later)
      · by_cases same : p.parts = q.parts
        · rwa [insert_of_parts_eq same]
        · have above := precedes_of_not below same
          rw [insert_of_follows above]
          refine List.pairwise_cons.2 ⟨fun other member => ?_, ih rising_more⟩
          -- what was put in has the place of `p` or of a path that was there
          have place := (place_mem_insert p more).1 (List.mem_map_of_mem member)
          rcases place with place | place
          · rwa [Precedes, place]
          · obtain ⟨known, known_member, place⟩ := List.mem_map.1 place
            rw [Precedes, ← place]
            exact least known known_member

theorem rising_ordered (paths : List Path) : (ordered paths).Pairwise Precedes := by
  have rising (found : List Path) (start : found.Pairwise Precedes) :
      (paths.foldl (fun found p => insert p found) found).Pairwise Precedes := by
    induction paths generalizing found with
    | nil => exact start
    | cons p more ih => exact ih _ (rising_insert p start)
  exact rising [] .nil

theorem place_mem_ordered :
    parts ∈ (ordered paths).map Path.parts ↔ parts ∈ paths.map Path.parts := by
  have kept (found : List Path) :
      parts ∈ (paths.foldl (fun found p => insert p found) found).map Path.parts ↔
        parts ∈ found.map Path.parts ∨ parts ∈ paths.map Path.parts := by
    induction paths generalizing found with
    | nil => simp
    | cons p more ih =>
        rw [List.foldl_cons, ih, place_mem_insert, List.map_cons, List.mem_cons, or_assoc,
          or_left_comm]
  rw [ordered, kept []]
  simp

end Path
end LessonAudit
