import LessonAudit.Proofs.Tree.Reordering
set_option autoImplicit false

namespace LessonAudit.Tree

open Json (Value Written Number Schema IsText read_iff values values_writtenMembers
  mem_writtenMembers value_record depth_written_value lawful_value source_of_member isText_compact
  isText_number inRange_of_isText)
open Decimal (Double)
open Dict (given given_cons given_same given_ne given_append mem_of_given Holds holds_iff)

inductive Node.Lawful : Node → Prop
  | intro {n : Node} (attr : ∀ d, n.attr = some d → d.Increasing)
      (options : ∀ d, n.options = some d → (Value.record d).Lawful)
      (extra : (Value.record n.extra).Lawful) (unnamed : ∀ member ∈ n.extra, member.1 ∉ namedMembers)
      (children : ∀ child ∈ n.children, child.Lawful) : n.Lawful

def Node.DoublesReadBack (n : Node) : Prop :=
  ∀ x, n.written.Occurs (.double x) → (Number.double x).ReadsBack

variable {w w' : Written} {n : Node} {x : Number} {members : List (String × Written)}

namespace Node

def attrMembers (attr : Option (Dict String)) : List (String × Written) :=
  match attr with
  | none => []
  | some d => [("attr", .record (textMembers d))]

def optionsMembers (options : Option (Dict Value)) : List (String × Written) :=
  match options with
  | none => []
  | some d => [("options", .record (Value.writtenMembers d))]

def childrenMembers (children : List Node) : List (String × Written) :=
  match children with
  | [] => []
  | child :: more => [("children", .list ((child :: more).map written))]

def ownMembers (n : Node) : List (String × Written) :=
  ("type", .text n.kind) :: (attrMembers n.attr ++ optionsMembers n.options ++
    childrenMembers n.children ++ Value.writtenMembers n.extra)

theorem writtenChildren_eq (children : List Node) : writtenChildren children = children.map written := by
  induction children with
  | nil => rfl
  | cons child children ih => rw [writtenChildren, ih, List.map_cons]

theorem written_eq (n : Node) : n.written = .record n.ownMembers := by
  obtain ⟨kind, attr, options, children, extra⟩ := n
  rw [written.eq_def]
  cases attr <;> cases options <;> cases children <;>
    simp [ownMembers, attrMembers, optionsMembers, childrenMembers, writtenChildren_eq]

theorem mem_ownMembers {member : String × Written} : member ∈ n.ownMembers ↔
    member = ("type", .text n.kind) ∨
    (∃ d, n.attr = some d ∧ member = ("attr", .record (textMembers d))) ∨
    (∃ d, n.options = some d ∧ member = ("options", .record (Value.writtenMembers d))) ∨
    (n.children ≠ [] ∧ member = ("children", .list (n.children.map written))) ∨
    member ∈ Value.writtenMembers n.extra := by
  obtain ⟨kind, attr, options, children, extra⟩ := n
  cases attr <;> cases options <;> cases children <;>
    simp [ownMembers, attrMembers, optionsMembers, childrenMembers]

theorem given_own {key : String} (unnamed : ∀ member ∈ n.extra, member.1 ∉ namedMembers)
    (named : key ∈ namedMembers) : given n.ownMembers key =
      if key = "type" then [.text n.kind]
      else if key = "attr" then (n.attr.map fun d => .record (textMembers d)).toList
      else if key = "options" then
        (n.options.map fun d => .record (Value.writtenMembers d)).toList
      else if n.children = [] then [] else [.list (n.children.map written)] := by
  have none : given (Value.writtenMembers n.extra) key = [] := by
    refine Dict.given_eq_nil_iff.2 fun member known same => ?_
    obtain ⟨source, source_known, rfl⟩ := mem_writtenMembers.1 known
    exact unnamed source source_known (same ▸ named)
  rw [ownMembers, ← List.cons_append, given_append, none, List.append_nil]
  obtain ⟨kind, attr, options, children, extra⟩ := n
  simp only [namedMembers, List.mem_cons, List.not_mem_nil, or_false] at named
  rcases named with rfl | rfl | rfl | rfl <;> cases attr <;> cases options <;> cases children <;>
    simp [attrMembers, optionsMembers, childrenMembers, given_cons]

theorem others_own (unnamed : ∀ member ∈ n.extra, member.1 ∉ namedMembers) :
    others n.ownMembers = Value.writtenMembers n.extra := by
  have kept : others (Value.writtenMembers n.extra) = Value.writtenMembers n.extra := by
    refine List.filter_eq_self.2 fun member known => ?_
    obtain ⟨source, source_known, rfl⟩ := mem_writtenMembers.1 known
    exact decide_eq_true (unnamed source source_known)
  have dropped : others (("type", .text n.kind) :: (attrMembers n.attr ++ optionsMembers n.options ++
      childrenMembers n.children)) = [] := by
    obtain ⟨kind, attr, options, children, extra⟩ := n
    cases attr <;> cases options <;> cases children <;>
      simp [others, namedMembers, attrMembers, optionsMembers, childrenMembers]
  rw [ownMembers, ← List.cons_append, others, List.filter_append]
  exact (congrArg₂ _ dropped kept).trans (List.nil_append _)

theorem holds_written {d : Dict Value} (lawful : (Value.record d).Lawful) :
    Holds d (values (Value.writtenMembers d)) := by
  cases lawful with
  | record increasing inside =>
      rw [values_writtenMembers fun member known => (inside member known).value_written]
      exact increasing.holds

theorem Lawful.owns (attr : ∀ d, n.attr = some d → d.Increasing)
    (options : ∀ d, n.options = some d → (Value.record d).Lawful)
    (extra : (Value.record n.extra).Lawful) (unnamed : ∀ member ∈ n.extra, member.1 ∉ namedMembers) :
    Owns n.ownMembers n where
  kind := given_own unnamed (by simp [namedMembers])
  attr := by
    rw [given_own unnamed (by simp [namedMembers])]
    cases present : n.attr with
    | none => exact .absent
    | some d => exact .record (attr d present).holds
  options := by
    rw [given_own unnamed (by simp [namedMembers])]
    cases present : n.options with
    | none => exact .absent
    | some d => exact .record (holds_written (options d present))
  extra := by
    rw [others_own unnamed]
    exact holds_written extra

theorem Lawful.denotes (lawful : n.Lawful) : Denotes n.written n := by
  induction lawful with
  | @intro n attr options extra unnamed _ ih =>
      rw [written_eq]
      have owns := Lawful.owns attr options extra unnamed
      have children : given n.ownMembers "children" =
          if n.children = [] then [] else [.list (n.children.map written)] :=
        given_own unnamed (by simp [namedMembers])
      by_cases none : n.children = []
      · exact .leaf owns (by rw [children, if_pos none]) none
      · refine .branch owns (by rw [children, if_neg none]) ?_
        exact List.forall₂_map_left_iff.2 (List.forall₂_same.2 ih)

theorem Lawful.inRange (lawful : n.Lawful) (occurs : n.written.Occurs x) : x.InRange := by
  induction lawful with
  | @intro n attr options extra unnamed _ ih =>
      rw [written_eq] at occurs
      cases occurs with
      | @member _ member known inside =>
          have of_record {d : Dict Value} (lawful : (Value.record d).Lawful)
              (occurs : (Written.record (Value.writtenMembers d)).Occurs x) : x.InRange :=
            lawful.inRange (by rwa [Value.written])
          rcases mem_ownMembers.1 known with rfl | ⟨d, is_attr, rfl⟩ | ⟨d, is_options, rfl⟩ |
            ⟨-, rfl⟩ | in_extra
          · cases inside
          · cases inside with
            | member known inside =>
                obtain ⟨pair, -, rfl⟩ := List.mem_map.1 known
                cases inside
          · exact of_record (options d is_options) inside
          · cases inside with
            | item known inside =>
                obtain ⟨child, child_known, rfl⟩ := List.mem_map.1 known
                exact ih child child_known inside
          · exact of_record extra (.member in_extra inside)

theorem Lawful.ofText?_compactText (lawful : n.Lawful) (depth : n.written.depth ≤ 127)
    (doubles : n.DoublesReadBack) : Node.ofText? n.written.compactText = .ok n := by
  refine ofText?_iff.2 ⟨n.written, ?_, depth, lawful.denotes⟩
  rw [Written.compactText, String.toList_ofList]
  refine isText_compact fun x occurs => isText_number (lawful.inRange occurs) ?_
  rintro d rfl
  exact doubles d occurs

end Node

theorem exists_source {items : List Written} {ns : List Node} (all : List.Forall₂ Denotes items ns)
    {child : Node} (known : child ∈ ns) : ∃ item ∈ items, Denotes item child := by
  induction all with
  | nil => simp at known
  | @cons item n items ns here _ ih =>
      rcases List.mem_cons.1 known with rfl | known
      · exact ⟨item, List.mem_cons_self, here⟩
      · obtain ⟨source, source_known, denotes⟩ := ih known
        exact ⟨source, List.mem_cons_of_mem _ source_known, denotes⟩

theorem AttributesGiven.of_some {given : List Written} {d : Dict String}
    (attributes : AttributesGiven given (some d)) :
    d.Increasing ∧ ∃ pairs, given = [.record (Node.textMembers pairs)] := by
  cases attributes with
  | record holds => exact ⟨holds.increasing, _, rfl⟩

theorem OptionsGiven.of_some {given : List Written} {d : Dict Value}
    (options : OptionsGiven given (some d)) :
    ∃ inner, given = [.record inner] ∧ (Written.record inner).value = .record d := by
  cases options with
  | record holds => exact ⟨_, rfl, by rw [value_record, holds_iff.1 holds]⟩

theorem Owns.extra_value (owns : Owns members n) :
    (Written.record (others members)).value = .record n.extra := by
  rw [value_record, holds_iff.1 owns.extra]

theorem Denotes.parts (denotes : Denotes (.record members) n) : Owns members n ∧
    (n.children = [] ∨ ∃ items, given members "children" = [.list items] ∧
      List.Forall₂ Denotes items n.children) := by
  cases denotes with
  | leaf owns _ no_children => exact ⟨owns, .inl no_children⟩
  | branch owns present inside => exact ⟨owns, .inr ⟨_, present, inside⟩⟩

theorem Denotes.lawful (denotes : Denotes w n) (numbers : ∀ x, w.Occurs x → x.InRange) :
    n.Lawful := by
  induction w using child_induction generalizing n with
  | other w no_record =>
      obtain ⟨members, rfl⟩ := denotes.is_record
      exact absurd rfl (no_record members)
  | record members ih =>
      obtain ⟨owns, children⟩ := denotes.parts
      refine .intro (fun d is_attr => ?_) (fun d is_options => ?_) ?_ (fun member known => ?_)
        fun child known => ?_
      · exact (is_attr ▸ owns.attr).of_some.1
      · obtain ⟨inner, values_eq, value_eq⟩ := (is_options ▸ owns.options).of_some
        have inner_known := mem_of_given values_eq
        rw [← value_eq]
        exact lawful_value fun x occurs => numbers x (.member inner_known occurs)
      · rw [← owns.extra_value]
        refine lawful_value fun x occurs => numbers x ?_
        cases occurs with
        | member known inside => exact .member (List.mem_of_mem_filter known) inside
      · rw [holds_iff.1 owns.extra] at known
        obtain ⟨source, source_known, rfl⟩ := source_of_member known
        simpa using (List.mem_filter.1 source_known).2
      · rcases children with none | ⟨items, present, inside⟩
        · simp [none] at known
        · obtain ⟨item, item_known, item_denotes⟩ := exists_source inside known
          have items_known := mem_of_given present
          exact ih items present item item_known item_denotes fun x occurs =>
            numbers x (.member items_known (.item item_known occurs))

theorem depth_textMembers (d : List (String × String)) :
    (Written.record (Node.textMembers d)).depth = 1 := by
  have flat : Written.depthMembers (Node.textMembers d) ≤ 0 := by
    refine Written.depthMembers_le_iff.2 fun member known => ?_
    obtain ⟨pair, -, rfl⟩ := List.mem_map.1 known
    exact Nat.le_refl _
  rw [Written.depth, Nat.le_zero.1 flat]

theorem Denotes.depth_written (denotes : Denotes w n) : n.written.depth ≤ w.depth := by
  induction w using child_induction generalizing n with
  | other w no_record =>
      obtain ⟨members, rfl⟩ := denotes.is_record
      exact absurd rfl (no_record members)
  | record members ih =>
      obtain ⟨owns, children⟩ := denotes.parts
      have below {name : String} {value : Written} (known : (name, value) ∈ members) :
          value.depth ≤ Written.depthMembers members :=
        Written.depth_le_depthMembers known
      rw [Node.written_eq, Written.depth.eq_def (Written.record members)]
      refine Written.depth_record_le.2 fun member known => ?_
      rcases Node.mem_ownMembers.1 known with rfl | ⟨d, is_attr, rfl⟩ | ⟨d, is_options, rfl⟩ |
        ⟨some_child, rfl⟩ | in_extra
      · exact Nat.zero_le _
      · obtain ⟨-, pairs, values_eq⟩ := (is_attr ▸ owns.attr).of_some
        have deep := below (mem_of_given values_eq)
        rwa [depth_textMembers] at deep ⊢
      · obtain ⟨inner, values_eq, value_eq⟩ := (is_options ▸ owns.options).of_some
        have deep := below (mem_of_given values_eq)
        have shallow := depth_written_value (.record inner)
        rw [value_eq] at shallow
        exact Nat.le_trans shallow deep
      · obtain none | ⟨items, present, inside⟩ := children
        · exact absurd none some_child
        · refine Nat.le_trans ?_ (below (mem_of_given present))
          rw [Written.depth.eq_def (Written.list items)]
          refine Written.depth_list_le.2 fun item known => ?_
          obtain ⟨child, child_known, rfl⟩ := List.mem_map.1 known
          obtain ⟨source, source_known, source_denotes⟩ := exists_source inside child_known
          exact Nat.le_trans (ih items present source source_known source_denotes)
            (Written.depth_le_depthItems source_known)
      · obtain ⟨pair, pair_known, rfl⟩ := mem_writtenMembers.1 in_extra
        rw [holds_iff.1 owns.extra] at pair_known
        obtain ⟨source, source_known, rfl⟩ := source_of_member pair_known
        exact Nat.le_trans (depth_written_value source.2) (below (List.mem_of_mem_filter source_known))

/-- A value spelled another way as a node: members of a record without repeated names in another
order, a null that spells an absent member left out, an empty list of children left out, or a child
spelled another way. -/
inductive Respelled : Written → Written → Prop
  | reordered {w w' : Written} (reordered : Reordered w w') : Respelled w w'
  | null_left_out {before after : List (String × Written)} {name : String}
      (optional : name = "attr" ∨ name = "options") :
      Respelled (.record (before ++ (name, .null) :: after)) (.record (before ++ after))
  | empty_left_out {before after : List (String × Written)} :
      Respelled (.record (before ++ ("children", .list []) :: after)) (.record (before ++ after))
  | child {before after : List (String × Written)} {earlier later : List Written} {a b : Written}
      (inside : Respelled a b) :
      Respelled (.record (before ++ ("children", .list (earlier ++ a :: later)) :: after))
        (.record (before ++ ("children", .list (earlier ++ b :: later)) :: after))

section LeftOut

variable {before after : List (String × Written)} {name key : String} {value : Written}

theorem given_left_out (other : name ≠ key) :
    given (before ++ (name, value) :: after) key = given (before ++ after) key := by
  rw [given_append, given_ne other, given_append]

theorem others_left_out (named : name ∈ namedMembers) :
    others (before ++ (name, value) :: after) = others (before ++ after) := by
  simp [others, named]

theorem single_of_append {earlier later : List Written} {a b : Written}
    (single : earlier ++ a :: later = [b]) : earlier = [] ∧ a = b ∧ later = [] := by
  cases earlier <;> simp_all

theorem AttributesGiven.null_left_out {earlier later : List Written} {attr : Option (Dict String)}
    (attributes : AttributesGiven (earlier ++ .null :: later) attr) :
    AttributesGiven (earlier ++ later) attr := by
  generalize values_eq : earlier ++ .null :: later = values at attributes
  cases attributes with
  | absent => simp at values_eq
  | null =>
      obtain ⟨rfl, -, rfl⟩ := single_of_append values_eq
      exact .absent
  | record =>
      obtain ⟨-, other, -⟩ := single_of_append values_eq
      cases other

theorem OptionsGiven.null_left_out {earlier later : List Written} {options : Option (Dict Value)}
    (options_given : OptionsGiven (earlier ++ .null :: later) options) :
    OptionsGiven (earlier ++ later) options := by
  generalize values_eq : earlier ++ .null :: later = values at options_given
  cases options_given with
  | absent => simp at values_eq
  | null =>
      obtain ⟨rfl, -, rfl⟩ := single_of_append values_eq
      exact .absent
  | record =>
      obtain ⟨-, other, -⟩ := single_of_append values_eq
      cases other

theorem Owns.left_out (owns : Owns (before ++ (name, value) :: after) n)
    (named : name ∈ namedMembers) (no_type : name ≠ "type")
    (null : name ≠ "children" → value = .null) : Owns (before ++ after) n where
  kind := given_left_out no_type ▸ owns.kind
  attr := by
    have attr := owns.attr
    by_cases same : name = "attr"
    · subst same
      rw [given_append, given_same, null (by decide)] at attr
      rw [given_append]
      exact attr.null_left_out
    · rwa [given_left_out same] at attr
  options := by
    have options := owns.options
    by_cases same : name = "options"
    · subst same
      rw [given_append, given_same, null (by decide)] at options
      rw [given_append]
      exact options.null_left_out
    · rwa [given_left_out same] at options
  extra := others_left_out named ▸ owns.extra

theorem Owns.put_back (owns : Owns (before ++ after) n) :
    Owns (before ++ ("children", value) :: after) n where
  kind := (given_left_out (by decide)).trans owns.kind
  attr := by
    rw [given_left_out (by decide)]
    exact owns.attr
  options := by
    rw [given_left_out (by decide)]
    exact owns.options
  extra := by
    rw [others_left_out (by simp [namedMembers])]
    exact owns.extra

end LeftOut

theorem forall₂_replaced {earlier later : List Written} {a b : Written} {ns : List Node}
    (stays : ∀ n, Denotes a n → Denotes b n)
    (all : List.Forall₂ Denotes (earlier ++ a :: later) ns) :
    List.Forall₂ Denotes (earlier ++ b :: later) ns := by
  induction earlier generalizing ns with
  | nil =>
      cases all with
      | cons here rest => exact .cons (stays _ here) rest
  | cons item earlier ih =>
      cases all with
      | cons here rest => exact .cons here (ih rest)

theorem Respelled.denotes (respelled : Respelled w w') (denotes : Denotes w n) : Denotes w' n := by
  induction respelled generalizing n with
  | reordered reordered =>
      rwa [← ofWritten?_iff, ← reordered.alike.node, ofWritten?_iff]
  | @null_left_out before after name optional =>
      have named : name ∈ namedMembers ∧ name ≠ "type" ∧ name ≠ "children" := by
        rcases optional with rfl | rfl <;> simp [namedMembers]
      obtain ⟨named, no_type, no_children⟩ := named
      cases denotes with
      | leaf owns absent none =>
          exact .leaf (owns.left_out named no_type fun _ => rfl)
            (given_left_out no_children ▸ absent) none
      | branch owns present inside =>
          exact .branch (owns.left_out named no_type fun _ => rfl)
            (given_left_out no_children ▸ present) inside
  | @empty_left_out before after =>
      cases denotes with
      | leaf _ absent => simp [given_append, given_same] at absent
      | branch owns present inside =>
          rw [given_append, given_same] at present
          obtain ⟨none_before, same, none_after⟩ := single_of_append present
          cases same
          refine .leaf (owns.left_out (by simp [namedMembers]) (by decide) (absurd rfl)) ?_
            (List.forall₂_nil_left_iff.1 inside)
          rw [given_append, none_before, none_after, List.append_nil]
  | @child before after earlier later a b _ ih =>
      cases denotes with
      | leaf _ absent => simp [given_append, given_same] at absent
      | branch owns present inside =>
          rw [given_append, given_same] at present
          obtain ⟨none_before, same, none_after⟩ := single_of_append present
          cases same
          have bare := owns.left_out (by simp [namedMembers]) (by decide) (absurd rfl)
          refine .branch bare.put_back ?_ (forall₂_replaced (fun _ => ih) inside)
          rw [given_append, given_same, none_before, none_after, List.nil_append]

theorem Respelled.depth_le (respelled : Respelled w w') : w'.depth ≤ w.depth := by
  induction respelled with
  | reordered reordered => exact Nat.le_of_eq reordered.alike.depth.symm
  | null_left_out | empty_left_out =>
      rw [Written.depth.eq_def (Written.record (_ ++ _ :: _))]
      refine Written.depth_record_le.2 fun member known => Written.depth_le_depthMembers ?_
      rcases List.mem_append.1 known with known | known
      · exact List.mem_append_left _ known
      · exact List.mem_append_right _ (List.mem_cons_of_mem _ known)
  | @child before after earlier later a b _ ih =>
      have no_deeper : (Written.list (earlier ++ b :: later)).depth ≤
          (Written.list (earlier ++ a :: later)).depth := by
        simpa only [Written.depth, Nat.add_le_add_iff_right] using Written.depthItems_replaced ih
      simpa only [Written.depth, Nat.add_le_add_iff_right] using
        Written.depthMembers_replaced no_deeper

theorem respelled_denotes (respelled : Relation.ReflTransGen Respelled w w')
    (denotes : Denotes w n) : Denotes w' n ∧ w'.depth ≤ w.depth := by
  induction respelled with
  | refl => exact ⟨denotes, Nat.le_refl _⟩
  | tail _ last ih => exact ⟨last.denotes ih.1, Nat.le_trans last.depth_le ih.2⟩

/-- A tree read from a text comes back from its JSON form, texts that spell it another way have the
same JSON form, and every lawful tree whose JSON form does not nest too deep comes back. The doubles
are assumed to be read back from what is printed for them. -/
theorem tree_comes_back :
    (∀ text n, Node.ofText? text = .ok n → n.DoublesReadBack →
      Node.ofText? n.written.compactText = .ok n ∧
      ∀ n', Node.ofText? n.written.compactText = .ok n' →
        n'.written.compactText = n.written.compactText) ∧
    (∀ text text' w w' n, IsText w text.toList → IsText w' text'.toList →
      Relation.ReflTransGen Respelled w w' → Node.ofText? text = .ok n →
        ∃ n', Node.ofText? text' = .ok n' ∧ n'.written.compactText = n.written.compactText) ∧
    ∀ n : Node, n.Lawful → n.written.depth ≤ 127 → n.DoublesReadBack →
      Node.ofText? n.written.compactText = .ok n := by
  refine ⟨fun text n reads doubles => ?_, ?_, fun n lawful => lawful.ofText?_compactText⟩
  · obtain ⟨w, is_text, depth, denotes⟩ := ofText?_iff.1 reads
    have lawful := denotes.lawful fun x => inRange_of_isText is_text
    have comes_back := lawful.ofText?_compactText
      (Nat.le_trans denotes.depth_written depth) doubles
    refine ⟨comes_back, fun n' again => ?_⟩
    rw [comes_back] at again
    cases again
    rfl
  · intro text text' w w' n is_text is_text' respelled reads
    obtain ⟨v, spelled, depth, denotes⟩ := ofText?_iff.1 reads
    obtain rfl := is_text.unique spelled
    obtain ⟨denotes', depth'⟩ := respelled_denotes respelled denotes
    exact ⟨n, ofText?_iff.2 ⟨w', is_text', Nat.le_trans depth' depth, denotes'⟩, rfl⟩

def pictureNode : Node :=
  ⟨"picture", some [("class", "wide")], none, [⟨"caption", none, some [], [], []⟩],
    [("width", .number (.double ⟨false, 6755399441055744, -52⟩))]⟩

theorem pictureNode_lawful : pictureNode.Lawful := by
  have caption : Node.Lawful ⟨"caption", none, some [], [], []⟩ :=
    .intro nofun (by rintro d ⟨⟩; exact .record .nil nofun) (.record .nil nofun) nofun nofun
  refine .intro ?_ nofun (.record (List.pairwise_singleton ..) ?_) ?_ ?_
  · rintro d ⟨⟩
    exact List.pairwise_singleton ..
  · intro member known
    obtain rfl := List.mem_singleton.1 known
    exact .number trivial
  · intro member known
    obtain rfl := List.mem_singleton.1 known
    simp [namedMembers]
  · intro child known
    obtain rfl := List.mem_singleton.1 known
    exact caption

theorem one_and_half_readsBack : (Number.double ⟨false, 6755399441055744, -52⟩).ReadsBack := by
  have written : (Number.double ⟨false, 6755399441055744, -52⟩).write = ['1', '.', '5'] := by
    decide +kernel
  have reads := read_iff.2 ⟨Json.isText_of_spells spells_oneAndHalf, Nat.zero_le _,
    Json.Schema.free_open.conforms _⟩
  unfold Number.ReadsBack
  rw [written, Value.ofText?, String.toList_ofList]
  exact congrArg _ reads

theorem pictureNode_doublesReadBack : pictureNode.DoublesReadBack := by
  intro x occurs
  have form : pictureNode.written = .record [("type", .text "picture"),
      ("attr", .record [("class", .text "wide")]),
      ("children", .list [.record [("type", .text "caption"), ("options", .record [])]]),
      ("width", .number (.double ⟨false, 6755399441055744, -52⟩))] := rfl
  obtain rfl : (⟨false, 6755399441055744, -52⟩ : Double) = x := by simpa [form] using occurs
  exact one_and_half_readsBack

theorem tree_comes_back_picture :
    Node.ofText? pictureNode.written.compactText = .ok pictureNode ∧
    (∀ n', Node.ofText? pictureNode.written.compactText = .ok n' →
      n'.written.compactText = pictureNode.written.compactText) ∧
    ∃ n', Node.ofText? "\x7b\"type\":\"p\"\x7d" = .ok n' ∧
      n'.written.compactText = (Node.ofKind "p").written.compactText := by
  obtain ⟨of_text, respelled, of_tree⟩ := tree_comes_back
  have comes_back := of_tree pictureNode pictureNode_lawful (by decide) pictureNode_doublesReadBack
  refine ⟨comes_back, (of_text _ _ comes_back pictureNode_doublesReadBack).2, ?_⟩
  have is_text : IsText (.record [("type", .text "p"), ("attr", .null)])
      "\x7b\"type\":\"p\",\"attr\":null\x7d".toList :=
    (read_iff.1 (show Json.read Schema.free () ['{', '"', 't', 'y', 'p', 'e', '"', ':', '"', 'p', '"',
      ',', '"', 'a', 't', 't', 'r', '"', ':', 'n', 'u', 'l', 'l', '}'] = .ok _ from rfl)).1
  have is_text' : IsText (.record [("type", .text "p")]) "\x7b\"type\":\"p\"\x7d".toList :=
    (read_iff.1 (show Json.read Schema.free () ['{', '"', 't', 'y', 'p', 'e', '"', ':', '"', 'p', '"',
      '}'] = .ok _ from rfl)).1
  have denotes : Denotes (.record [("type", .text "p"), ("attr", .null)]) (Node.ofKind "p") :=
    ofWritten?_iff.1 rfl
  have left_out : Respelled (.record ([("type", .text "p")] ++ ("attr", .null) :: []))
      (.record ([("type", .text "p")] ++ [])) := .null_left_out (.inl rfl)
  exact respelled _ _ _ _ _ is_text is_text' (.single left_out) (ofText?_iff.2 ⟨_, is_text, by decide, denotes⟩)

end LessonAudit.Tree
