import LessonAudit.Text.Regex
import LessonAudit.Proofs.Text.Pieces
set_option autoImplicit false

namespace LessonAudit.Text.Regex

-- What an expression takes of a text between what stands before and what comes after.
def Takes : Regex → List Char → List Char → List Char → List (List Char) → Prop
  | empty, _, taken, _, groups => taken = [] ∧ groups = []
  | start, before, taken, _, groups => before = [] ∧ taken = [] ∧ groups = []
  | finish, _, taken, after, groups => after = [] ∧ taken = [] ∧ groups = []
  | char fits, _, taken, _, groups => (∃ c, fits c = true ∧ taken = [c]) ∧ groups = []
  | run fits, _, taken, _, groups => (∀ c ∈ taken, fits c = true) ∧ groups = []
  | group r, before, taken, after, groups =>
      ∃ more, r.Takes before taken after more ∧ groups = taken :: more
  | seq r s, before, taken, after, groups =>
      ∃ first last more rest, r.Takes before first (last ++ after) more ∧
        s.Takes (before ++ first) last after rest ∧ taken = first ++ last ∧ groups = more ++ rest
  | alt r s, before, taken, after, groups =>
      r.Takes before taken after groups ∨ s.Takes before taken after groups

variable {r s : Regex} {fits : Char → Bool} {m : Match} {p q : Place}
variable {text before taken after name : List Char} {groups : List (List Char)}

theorem mem_runs_iff : q ∈ runs fits before text ↔
    ∃ taken, q.before = before ++ taken ∧ text = taken ++ q.after ∧ ∀ c ∈ taken, fits c = true := by
  induction text generalizing before with
  | nil =>
      obtain ⟨back, front⟩ := q
      simp only [runs, List.mem_singleton, Place.mk.injEq, List.nil_eq_append_iff]
      constructor
      · rintro ⟨rfl, rfl⟩
        exact ⟨[], by simp⟩
      · rintro ⟨taken, rfl, ⟨rfl, rfl⟩, -⟩
        simp
  | cons c text ih =>
      obtain ⟨back, front⟩ := q
      simp only [runs, List.mem_append, List.mem_singleton, Place.mk.injEq]
      constructor
      · rintro (further | ⟨rfl, rfl⟩)
        · split at further
          · next fit =>
              obtain ⟨taken, rfl, rfl, all⟩ := ih.1 further
              exact ⟨c :: taken, by simp, rfl, List.forall_mem_cons.2 ⟨fit, all⟩⟩
          · cases further
        · exact ⟨[], by simp⟩
      · rintro ⟨taken, rfl, text_eq, all⟩
        cases taken with
        | nil => exact .inr ⟨List.append_nil _, text_eq.symm⟩
        | cons d taken =>
            obtain ⟨rfl, rfl⟩ := List.cons.inj text_eq
            obtain ⟨fit, all⟩ := List.forall_mem_cons.1 all
            rw [if_pos fit]
            exact .inl (ih.2 ⟨taken, by simp, rfl, all⟩)

/-- What the search from a place should find: a match over what the expression takes there. -/
def Ends (r : Regex) (p : Place) (m : Match) : Prop :=
  ∃ taken, m.place.before = p.before ++ taken ∧ p.after = taken ++ m.place.after ∧
    r.Takes p.before taken m.place.after m.groups

theorem ends_empty_iff : empty.Ends p m ↔ m = ⟨p, []⟩ := by
  obtain ⟨⟨back, front⟩, groups⟩ := m
  obtain ⟨before, after⟩ := p
  simp only [Ends, Takes, Match.mk.injEq, Place.mk.injEq]
  constructor
  · rintro ⟨taken, rfl, rfl, rfl, rfl⟩
    simp
  · rintro ⟨⟨rfl, rfl⟩, rfl⟩
    exact ⟨[], by simp⟩

theorem ends_start_iff : start.Ends p m ↔ p.before = [] ∧ empty.Ends p m := by
  simp only [Ends, Takes]
  constructor
  · rintro ⟨taken, back_eq, text_eq, first, nothing, none⟩
    exact ⟨first, taken, back_eq, text_eq, nothing, none⟩
  · rintro ⟨first, taken, back_eq, text_eq, nothing, none⟩
    exact ⟨taken, back_eq, text_eq, first, nothing, none⟩

theorem ends_finish_iff : finish.Ends p m ↔ p.after = [] ∧ empty.Ends p m := by
  simp only [Ends, Takes]
  constructor
  · rintro ⟨taken, back_eq, text_eq, last, rfl, none⟩
    exact ⟨text_eq.trans last, [], back_eq, text_eq, rfl, none⟩
  · rintro ⟨last, taken, back_eq, text_eq, rfl, none⟩
    exact ⟨[], back_eq, text_eq, text_eq.symm.trans last, rfl, none⟩

theorem mem_endings_char_iff : m ∈ (char fits).endings p ↔ (char fits).Ends p m := by
  obtain ⟨⟨back, front⟩, groups⟩ := m
  obtain ⟨before, after⟩ := p
  cases after with
  | nil =>
      simp only [endings, Ends, Takes, List.not_mem_nil, false_iff]
      rintro ⟨taken, -, text_eq, ⟨c, -, rfl⟩, -⟩
      cases text_eq
  | cons c after =>
      simp only [endings, Ends, Takes, List.mem_ite_nil_right, List.mem_singleton, Match.mk.injEq,
        Place.mk.injEq]
      constructor
      · rintro ⟨fit, ⟨rfl, rfl⟩, rfl⟩
        exact ⟨[c], rfl, rfl, ⟨c, fit, rfl⟩, rfl⟩
      · rintro ⟨taken, rfl, text_eq, ⟨d, fit, rfl⟩, rfl⟩
        obtain ⟨rfl, rfl⟩ := List.cons.inj text_eq
        exact ⟨fit, ⟨rfl, rfl⟩, rfl⟩

theorem mem_endings_run_iff : m ∈ (run fits).endings p ↔ (run fits).Ends p m := by
  obtain ⟨⟨back, front⟩, groups⟩ := m
  simp only [endings, Ends, Takes, List.mem_map, mem_runs_iff, Match.mk.injEq]
  constructor
  · rintro ⟨q, ⟨taken, back_eq, text_eq, all⟩, rfl, rfl⟩
    exact ⟨taken, back_eq, text_eq, all, rfl⟩
  · rintro ⟨taken, back_eq, text_eq, all, rfl⟩
    exact ⟨_, ⟨taken, back_eq, text_eq, all⟩, rfl, rfl⟩

theorem ends_group_iff : (group r).Ends p m ↔
    ∃ n, r.Ends p n ∧ ⟨n.place, n.place.before.drop p.before.length :: n.groups⟩ = m := by
  obtain ⟨⟨back, front⟩, groups⟩ := m
  simp only [Ends, Takes, Match.mk.injEq]
  constructor
  · rintro ⟨taken, back_eq, text_eq, more, takes, rfl⟩
    refine ⟨⟨⟨back, front⟩, more⟩, ⟨taken, back_eq, text_eq, takes⟩, rfl, ?_⟩
    simp [back_eq]
  · rintro ⟨⟨⟨_, _⟩, more⟩, ⟨taken, back_eq, text_eq, takes⟩, ⟨rfl, rfl⟩, rfl⟩
    dsimp only at back_eq
    exact ⟨taken, back_eq, text_eq, more, takes, by simp [back_eq]⟩

theorem ends_seq_iff : (seq r s).Ends p m ↔
    ∃ first, r.Ends p first ∧ ∃ last, s.Ends first.place last ∧
      ⟨last.place, first.groups ++ last.groups⟩ = m := by
  obtain ⟨⟨back, front⟩, groups⟩ := m
  simp only [Ends, Takes, Match.mk.injEq]
  constructor
  · rintro ⟨_, back_eq, text_eq, first, last, more, others, first_takes, last_takes, rfl, rfl⟩
    refine ⟨⟨⟨p.before ++ first, last ++ front⟩, more⟩, ?_, ⟨⟨back, front⟩, others⟩, ?_, rfl, rfl⟩
    · exact ⟨first, rfl, by simp [text_eq], first_takes⟩
    · exact ⟨last, by simp [back_eq], rfl, last_takes⟩
  · rintro ⟨⟨⟨mid, rest⟩, more⟩, ⟨first, mid_eq, text_eq, first_takes⟩, ⟨⟨_, _⟩, others⟩,
      ⟨last, back_eq, rest_eq, last_takes⟩, ⟨rfl, rfl⟩, rfl⟩
    dsimp only at mid_eq text_eq first_takes back_eq rest_eq last_takes
    subst mid_eq rest_eq
    exact ⟨first ++ last, by simp [back_eq], by simp [text_eq],
      first, last, more, others, first_takes, last_takes, rfl, rfl⟩

theorem ends_alt_iff : (alt r s).Ends p m ↔ r.Ends p m ∨ s.Ends p m := by
  simp only [Ends, Takes, and_or_left, exists_or]

/-- The search goes over just what the expression takes. -/
theorem mem_endings_iff : m ∈ r.endings p ↔ r.Ends p m := by
  induction r generalizing m p with
  | empty => rw [ends_empty_iff, endings, List.mem_singleton]
  | start =>
      rw [ends_start_iff, ends_empty_iff]
      simp only [endings, List.isEmpty_iff, List.mem_ite_nil_right, List.mem_singleton]
  | finish =>
      rw [ends_finish_iff, ends_empty_iff]
      simp only [endings, List.isEmpty_iff, List.mem_ite_nil_right, List.mem_singleton]
  | char fits => exact mem_endings_char_iff
  | run fits => exact mem_endings_run_iff
  | group r ih => simp only [ends_group_iff, endings, List.mem_map, ih]
  | seq r s ih ih' => simp only [ends_seq_iff, endings, List.mem_flatMap, List.mem_map, ih, ih']
  | alt r s ih ih' => rw [ends_alt_iff, endings, List.mem_append, ih, ih']

theorem mem_places_iff : p ∈ places before text ↔
    ∃ passed, p.before = before ++ passed ∧ text = passed ++ p.after := by
  induction text generalizing before with
  | nil =>
      obtain ⟨back, front⟩ := p
      simp only [places, List.mem_singleton, Place.mk.injEq, List.nil_eq_append_iff]
      constructor
      · rintro ⟨rfl, rfl⟩
        exact ⟨[], by simp⟩
      · rintro ⟨passed, rfl, rfl, rfl⟩
        simp
  | cons c text ih =>
      obtain ⟨back, front⟩ := p
      simp only [places, List.mem_cons, Place.mk.injEq]
      constructor
      · rintro (⟨rfl, rfl⟩ | later)
        · exact ⟨[], by simp⟩
        · obtain ⟨passed, rfl, rfl⟩ := ih.1 later
          exact ⟨c :: passed, by simp, rfl⟩
      · rintro ⟨passed, rfl, text_eq⟩
        cases passed with
        | nil => exact .inl ⟨List.append_nil _, text_eq.symm⟩
        | cons d passed =>
            obtain ⟨rfl, rfl⟩ := List.cons.inj text_eq
            exact .inr (ih.2 ⟨passed, by simp, rfl⟩)

def Found (r : Regex) (text : List Char) (groups : List (List Char)) : Prop :=
  ∃ before taken after, text = before ++ (taken ++ after) ∧ r.Takes before taken after groups

theorem mem_groups_iff : groups ∈ ((places [] text).flatMap r.endings).map Match.groups ↔
    r.Found text groups := by
  simp only [List.mem_map, List.mem_flatMap, Found]
  constructor
  · rintro ⟨m, ⟨p, place, ending⟩, rfl⟩
    obtain ⟨before, before_eq, rfl⟩ := mem_places_iff.1 place
    obtain ⟨taken, -, after_eq, takes⟩ := mem_endings_iff.1 ending
    rw [List.nil_append] at before_eq
    exact ⟨before, taken, m.place.after, by rw [after_eq], by rwa [← before_eq]⟩
  · rintro ⟨before, taken, after, rfl, takes⟩
    exact ⟨⟨⟨before ++ taken, after⟩, groups⟩, ⟨⟨before, taken ++ after⟩,
      mem_places_iff.2 ⟨before, rfl, rfl⟩, mem_endings_iff.2 ⟨taken, rfl, rfl, takes⟩⟩, rfl⟩

theorem captures?_eq : r.captures? text =
    (((places [] text).flatMap r.endings).map Match.groups).head? := by
  rw [captures?, List.head?_map]

theorem isMatch_iff : r.isMatch text = true ↔ ∃ groups, r.Found text groups := by
  simp only [← mem_groups_iff]
  rw [isMatch, captures?_eq, List.isSome_head?]
  exact ⟨List.exists_mem_of_ne_nil _, fun ⟨_, found⟩ => List.ne_nil_of_mem found⟩

theorem captures?_eq_some_iff (unique : ∀ {more other}, r.Found text more → r.Found text other →
    more = other) : r.captures? text = some groups ↔ r.Found text groups := by
  rw [captures?_eq]
  constructor
  · exact fun first => mem_groups_iff.1 (List.mem_of_head? first)
  · intro found
    obtain ⟨first, more, all_eq⟩ := List.exists_cons_of_ne_nil
      (List.ne_nil_of_mem (mem_groups_iff.2 found))
    have kept : r.Found text first := mem_groups_iff.1 (by simp [all_eq])
    rw [all_eq, List.head?_cons, unique kept found]

theorem takes_ofChars_iff :
    (ofChars name).Takes before taken after groups ↔ taken = name ∧ groups = [] := by
  induction name generalizing before taken groups with
  | nil => rfl
  | cons c name ih =>
      simp only [ofChars, Takes, ih, beq_iff_eq]
      constructor
      · rintro ⟨_, _, _, _, ⟨⟨_, rfl, rfl⟩, rfl⟩, ⟨rfl, rfl⟩, rfl, rfl⟩
        simp
      · rintro ⟨rfl, rfl⟩
        exact ⟨[c], name, [], [], by simp⟩

theorem takes_ofChars_seq_iff : (seq (ofChars name) r).Takes before taken after groups ↔
    ∃ rest, taken = name ++ rest ∧ r.Takes (before ++ name) rest after groups := by
  simp only [Takes, takes_ofChars_iff]
  constructor
  · rintro ⟨_, rest, _, _, ⟨rfl, rfl⟩, takes, rfl, rfl⟩
    exact ⟨rest, rfl, takes⟩
  · rintro ⟨rest, rfl, takes⟩
    exact ⟨name, rest, [], groups, ⟨rfl, rfl⟩, takes, rfl, rfl⟩

theorem takes_char_seq_iff : (seq (char fits) r).Takes before taken after groups ↔
    ∃ c rest, fits c = true ∧ taken = c :: rest ∧ r.Takes (before ++ [c]) rest after groups := by
  simp only [Takes]
  constructor
  · rintro ⟨_, rest, _, _, ⟨⟨c, fit, rfl⟩, rfl⟩, takes, rfl, rfl⟩
    exact ⟨c, rest, fit, rfl, takes⟩
  · rintro ⟨c, rest, fit, rfl, takes⟩
    exact ⟨[c], rest, [], groups, ⟨⟨c, fit, rfl⟩, rfl⟩, takes, rfl, rfl⟩

theorem takes_finish_iff :
    finish.Takes before taken after groups ↔ after = [] ∧ taken = [] ∧ groups = [] :=
  .rfl

theorem takes_run_seq_iff : (seq (run fits) r).Takes before taken after groups ↔
    ∃ first rest, (∀ c ∈ first, fits c = true) ∧ taken = first ++ rest ∧
      r.Takes (before ++ first) rest after groups := by
  simp only [Takes]
  constructor
  · rintro ⟨first, rest, _, _, ⟨all, rfl⟩, takes, rfl, rfl⟩
    exact ⟨first, rest, all, rfl, takes⟩
  · rintro ⟨first, rest, all, rfl, takes⟩
    exact ⟨first, rest, [], groups, ⟨all, rfl⟩, takes, rfl, rfl⟩

theorem found_startOr_seq_iff {mark : Char} : (seq (startOr mark) r).Found text groups ↔
    ∃ above taken after, Whole mark above ∧ text = above ++ (taken ++ after) ∧
      r.Takes above taken after groups := by
  simp only [Found, startOr, Takes, beq_iff_eq]
  constructor
  · rintro ⟨before, _, after, rfl, _, last, _, _, ⟨rfl, rfl, rfl⟩ | ⟨⟨c, rfl, rfl⟩, rfl⟩,
      takes, rfl, rfl⟩
    · exact ⟨[], _, after, .inl rfl, rfl, takes⟩
    · exact ⟨before ++ [c], last, after, .inr (by simp), by simp, takes⟩
  · rintro ⟨above, taken, after, rfl | marked, rfl, takes⟩
    · exact ⟨[], taken, after, rfl, [], taken, [], groups, .inl ⟨rfl, rfl, rfl⟩, takes, rfl, rfl⟩
    · obtain ⟨before, rfl⟩ := List.getLast?_eq_some_iff.1 marked
      exact ⟨before, mark :: taken, after, by simp, [mark], taken, [], groups,
        .inr ⟨⟨mark, rfl, rfl⟩, rfl⟩, takes, rfl, rfl⟩

end LessonAudit.Text.Regex
