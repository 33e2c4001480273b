import LessonAudit.Proofs.Json.Values
import LessonAudit.Tree.Decode
set_option autoImplicit false

namespace LessonAudit.Tree

open Json (Value Written IsText Conforms read_iff values valueMembers_eq)
open Dict (given given_cons given_same given_ne given_nil mem_given mem_of_given put Holds holds_iff holds_put)

def others (members : List (String × Written)) : List (String × Written) :=
  members.filter fun member => member.1 ∉ namedMembers

inductive AttributesGiven : List Written → Option (Dict String) → Prop
  | absent : AttributesGiven [] none
  | null : AttributesGiven [.null] none
  | record {pairs : List (String × String)} {d : Dict String} (holds : Holds d pairs) :
      AttributesGiven [.record (Node.textMembers pairs)] (some d)

inductive OptionsGiven : List Written → Option (Dict Value) → Prop
  | absent : OptionsGiven [] none
  | null : OptionsGiven [.null] none
  | record {members : List (String × Written)} {d : Dict Value} (holds : Holds d (values members)) :
      OptionsGiven [.record members] (some d)

structure Owns (members : List (String × Written)) (n : Node) : Prop where
  kind : given members "type" = [.text n.kind]
  attr : AttributesGiven (given members "attr") n.attr
  options : OptionsGiven (given members "options") n.options
  extra : Holds n.extra (values (others members))

inductive Denotes : Written → Node → Prop
  | leaf {members : List (String × Written)} {n : Node} (owns : Owns members n)
      (absent : given members "children" = []) (no_children : n.children = []) :
      Denotes (.record members) n
  | branch {members : List (String × Written)} {items : List Written} {n : Node}
      (owns : Owns members n) (present : given members "children" = [.list items])
      (inside : List.Forall₂ Denotes items n.children) : Denotes (.record members) n

structure NodeMembers (members : List (String × Written)) : Prop where
  kind : ∃ s, given members "type" = [.text s]
  attr : given members "attr" = [] ∨ given members "attr" = [.null] ∨
    ∃ texts, given members "attr" = [.record texts] ∧ ∀ member ∈ texts, member.2.kind = .text
  options : given members "options" = [] ∨ given members "options" = [.null] ∨
    ∃ inner, given members "options" = [.record inner]

inductive Shaped : Written → Prop
  | leaf {members : List (String × Written)} (named : NodeMembers members)
      (absent : given members "children" = []) : Shaped (.record members)
  | branch {members : List (String × Written)} {items : List Written}
      (named : NodeMembers members) (present : given members "children" = [.list items])
      (inside : ∀ item ∈ items, Shaped item) : Shaped (.record members)

variable {α : Type} {w : Written} {n : Node} {members : List (String × Written)} {f g : Found}

def childrenOf? : Written → Option (List Node)
  | .list items => nodes? items
  | _ => none

def Came (read : Written → Option α) (before : Option α) (values : List Written)
    (after : Option α) : Prop :=
  values = [] ∧ after = before ∨
    before = none ∧ ∃ value x, values = [value] ∧ read value = some x ∧ after = some x

theorem came_nil {read : Written → Option α} {before after : Option α} :
    Came read before [] after ↔ after = before := by
  simp [Came]

theorem came_cons {read : Written → Option α} {before after : Option α} {value : Written}
    {values : List Written} : Came read before (value :: values) after ↔
      before = none ∧ ∃ x, read value = some x ∧ Came read (some x) values after := by
  simp only [Came]
  constructor
  · rintro (⟨none, -⟩ | ⟨rfl, v, x, values_eq, reads, rfl⟩)
    · simp at none
    · obtain ⟨rfl, rfl⟩ := List.cons.inj values_eq
      exact ⟨rfl, x, reads, .inl ⟨rfl, rfl⟩⟩
  · rintro ⟨rfl, x, reads, ⟨rfl, rfl⟩ | ⟨none, -⟩⟩
    · exact .inr ⟨rfl, value, x, rfl, reads, rfl⟩
    · simp at none

theorem foundIn_type {value : Written} : foundIn (("type", value) :: members) f = some g ↔
    f.kind = none ∧ ∃ s, text? value = some s ∧
      foundIn members { f with kind := some s } = some g := by
  rw [foundIn.eq_def]
  simp only [if_pos]
  cases f.kind <;> cases text? value <;> simp

theorem foundIn_attr {value : Written} : foundIn (("attr", value) :: members) f = some g ↔
    f.attr = none ∧ ∃ attr, attributes? value = some attr ∧
      foundIn members { f with attr := some attr } = some g := by
  rw [foundIn.eq_def]
  simp only [if_neg (show "attr" ≠ "type" by decide), if_pos]
  cases f.attr <;> cases attributes? value <;> simp

theorem foundIn_options {value : Written} : foundIn (("options", value) :: members) f = some g ↔
    f.options = none ∧ ∃ options, options? value = some options ∧
      foundIn members { f with options := some options } = some g := by
  rw [foundIn.eq_def]
  simp only [if_neg (show "options" ≠ "type" by decide),
    if_neg (show "options" ≠ "attr" by decide), if_pos]
  cases f.options <;> cases options? value <;> simp

theorem foundIn_children {value : Written} : foundIn (("children", value) :: members) f = some g ↔
    f.children = none ∧ ∃ children, childrenOf? value = some children ∧
      foundIn members { f with children := some children } = some g := by
  rw [foundIn.eq_def]
  simp only [if_neg (show "children" ≠ "type" by decide),
    if_neg (show "children" ≠ "attr" by decide), if_neg (show "children" ≠ "options" by decide),
    if_pos]
  cases f.children with
  | some _ => simp
  | none =>
      cases value with
      | list items => cases reads : nodes? items <;> simp [childrenOf?, reads]
      | _ => simp [childrenOf?]

theorem foundIn_other {name : String} {value : Written} (other : name ∉ namedMembers) :
    foundIn ((name, value) :: members) f =
      foundIn members { f with extra := f.extra.insert name value.value } := by
  simp only [namedMembers, List.mem_cons, List.not_mem_nil, or_false, not_or] at other
  rw [foundIn.eq_def]
  simp only [if_neg other.1, if_neg other.2.1, if_neg other.2.2.1, if_neg other.2.2.2]

theorem others_named {name : String} {value : Written} (named : name ∈ namedMembers) :
    others ((name, value) :: members) = others members := by
  simp [others, named]

theorem others_other {name : String} {value : Written} (other : name ∉ namedMembers) :
    others ((name, value) :: members) = (name, value) :: others members := by
  simp [others, other]

theorem given_other {name key : String} {value : Written} (other : name ∉ namedMembers)
    (named : key ∈ namedMembers) : given ((name, value) :: members) key = given members key := by
  refine given_ne fun same => other ?_
  rwa [same]

theorem foundIn_iff : foundIn members f = some g ↔
    Came text? f.kind (given members "type") g.kind ∧
    Came attributes? f.attr (given members "attr") g.attr ∧
    Came options? f.options (given members "options") g.options ∧
    Came childrenOf? f.children (given members "children") g.children ∧
    g.extra = put f.extra (values (others members)) := by
  induction members generalizing f with
  | nil =>
      simp only [given_nil, came_nil]
      cases f
      cases g
      simp [foundIn, others, values, put, eq_comm]
  | cons member members ih =>
      obtain ⟨name, value⟩ := member
      by_cases other : name ∉ namedMembers
      · rw [foundIn_other other, ih, others_other other, given_other other (by simp [namedMembers]),
          given_other other (by simp [namedMembers]), given_other other (by simp [namedMembers]),
          given_other other (by simp [namedMembers])]
        rfl
      · have named : name ∈ namedMembers := not_not.1 other
        rw [others_named named]
        simp only [namedMembers, List.mem_cons, List.not_mem_nil, or_false] at named
        rcases named with rfl | rfl | rfl | rfl
        · rw [foundIn_type, given_same, given_ne (by decide), given_ne (by decide),
            given_ne (by decide)]
          simp only [ih]
          constructor
          · rintro ⟨fresh, s, reads, kind, others⟩
            exact ⟨came_cons.2 ⟨fresh, s, reads, kind⟩, others⟩
          · rintro ⟨kind, others⟩
            obtain ⟨fresh, s, reads, kind⟩ := came_cons.1 kind
            exact ⟨fresh, s, reads, kind, others⟩
        · rw [foundIn_attr, given_same, given_ne (by decide), given_ne (by decide),
            given_ne (by decide)]
          simp only [ih]
          constructor
          · rintro ⟨fresh, d, reads, kind, attr, others⟩
            exact ⟨kind, came_cons.2 ⟨fresh, d, reads, attr⟩, others⟩
          · rintro ⟨kind, attr, others⟩
            obtain ⟨fresh, d, reads, attr⟩ := came_cons.1 attr
            exact ⟨fresh, d, reads, kind, attr, others⟩
        · rw [foundIn_options, given_same, given_ne (by decide), given_ne (by decide),
            given_ne (by decide)]
          simp only [ih]
          constructor
          · rintro ⟨fresh, d, reads, kind, attr, options, others⟩
            exact ⟨kind, attr, came_cons.2 ⟨fresh, d, reads, options⟩, others⟩
          · rintro ⟨kind, attr, options, others⟩
            obtain ⟨fresh, d, reads, options⟩ := came_cons.1 options
            exact ⟨fresh, d, reads, kind, attr, options, others⟩
        · rw [foundIn_children, given_same, given_ne (by decide), given_ne (by decide),
            given_ne (by decide)]
          simp only [ih]
          constructor
          · rintro ⟨fresh, ns, reads, kind, attr, options, children, extra⟩
            exact ⟨kind, attr, options, came_cons.2 ⟨fresh, ns, reads, children⟩, extra⟩
          · rintro ⟨kind, attr, options, children, extra⟩
            obtain ⟨fresh, ns, reads, children⟩ := came_cons.1 children
            exact ⟨fresh, ns, reads, kind, attr, options, children, extra⟩

theorem texts?_cons {name : String} {value : Written} {found : Dict String} :
    texts? ((name, value) :: members) found =
      (text? value).bind fun s => texts? members (found.insert name s) := by
  cases value <;> rfl

theorem texts?_iff {found d : Dict String} : texts? members found = some d ↔
    ∃ pairs, members = Node.textMembers pairs ∧ d = put found pairs := by
  induction members generalizing found with
  | nil =>
      constructor
      · intro reads
        cases reads
        exact ⟨[], rfl, rfl⟩
      · rintro ⟨pairs, none, rfl⟩
        obtain rfl := List.map_eq_nil_iff.1 none.symm
        rfl
  | cons member members ih =>
      obtain ⟨name, value⟩ := member
      constructor
      · intro reads
        cases value with
        | text s =>
            obtain ⟨pairs, rfl, rfl⟩ := ih.1 reads
            exact ⟨(name, s) :: pairs, rfl, rfl⟩
        | _ => simp [texts?_cons, text?] at reads
      · rintro ⟨_ | ⟨⟨key, s⟩, pairs⟩, same, rfl⟩
        · simp [Node.textMembers] at same
        · obtain ⟨head, rfl⟩ := List.cons.inj same
          obtain ⟨rfl, rfl⟩ := Prod.mk.inj head
          exact ih.2 ⟨pairs, rfl, rfl⟩

theorem came_kind_iff {values : List Written} {kind : String} :
    Came text? none values (some kind) ↔ values = [.text kind] := by
  constructor
  · rintro (⟨-, none⟩ | ⟨-, value, s, rfl, reads, same⟩)
    · simp at none
    · cases value <;> simp_all [text?]
  · rintro rfl
    exact .inr ⟨rfl, _, _, rfl, rfl, rfl⟩

theorem attributesGiven_iff {values : List Written} {attr : Option (Dict String)} :
    AttributesGiven values attr ↔ ∃ found, Came attributes? none values found ∧ found.join = attr := by
  constructor
  · intro given
    cases given with
    | absent => exact ⟨none, .inl ⟨rfl, rfl⟩, rfl⟩
    | null => exact ⟨some none, .inr ⟨rfl, _, _, rfl, rfl, rfl⟩, rfl⟩
    | @record pairs d holds =>
        have reads : texts? (Node.textMembers pairs) [] = some d :=
          texts?_iff.2 ⟨pairs, rfl, holds_iff.1 holds⟩
        exact ⟨some (some d), .inr ⟨rfl, _, _, rfl, by simp [attributes?, reads], rfl⟩, rfl⟩
  · rintro ⟨found, ⟨rfl, rfl⟩ | ⟨-, value, x, rfl, reads, rfl⟩, rfl⟩
    · exact .absent
    · cases value with
      | null =>
          cases reads
          exact .null
      | record members =>
          obtain ⟨d, inner, rfl⟩ := Option.map_eq_some_iff.1 reads
          obtain ⟨pairs, rfl, rfl⟩ := texts?_iff.1 inner
          exact .record holds_put
      | _ => simp [attributes?] at reads

theorem optionsGiven_iff {values : List Written} {options : Option (Dict Value)} :
    OptionsGiven values options ↔ ∃ found, Came options? none values found ∧ found.join = options := by
  constructor
  · intro given
    cases given with
    | absent => exact ⟨none, .inl ⟨rfl, rfl⟩, rfl⟩
    | null => exact ⟨some none, .inr ⟨rfl, _, _, rfl, rfl, rfl⟩, rfl⟩
    | @record members d holds =>
        have same : Written.valueMembers members [] = d := by
          rw [valueMembers_eq, ← holds_iff.1 holds]
        exact ⟨some (some d), .inr ⟨rfl, _, _, rfl, by simp [options?, same], rfl⟩, rfl⟩
  · rintro ⟨found, ⟨rfl, rfl⟩ | ⟨-, value, x, rfl, reads, rfl⟩, rfl⟩
    · exact .absent
    · cases value with
      | null =>
          cases reads
          exact .null
      | record members =>
          cases reads
          exact .record (holds_iff.2 (valueMembers_eq []))
      | _ => simp [options?] at reads

theorem ofWritten?_record : Node.ofWritten? (.record members) = some n ↔ Owns members n ∧
    ∃ found, Came childrenOf? none (given members "children") found ∧
      n.children = found.getD [] := by
  rw [Node.ofWritten?, Option.bind_eq_some_iff]
  constructor
  · rintro ⟨g, found, node⟩
    obtain ⟨kind, attr, options, children, extra⟩ := foundIn_iff.1 found
    obtain ⟨k, is_kind, rfl⟩ := Option.map_eq_some_iff.1 node
    rw [is_kind] at kind
    exact ⟨⟨came_kind_iff.1 kind, attributesGiven_iff.2 ⟨_, attr, rfl⟩,
      optionsGiven_iff.2 ⟨_, options, rfl⟩, holds_iff.2 extra⟩, _, children, rfl⟩
  · rintro ⟨owns, children, came, children_eq⟩
    obtain ⟨attr, attr_came, attr_eq⟩ := attributesGiven_iff.1 owns.attr
    obtain ⟨options, options_came, options_eq⟩ := optionsGiven_iff.1 owns.options
    refine ⟨⟨some n.kind, attr, options, children, n.extra⟩, ?_, ?_⟩
    · exact foundIn_iff.2 ⟨came_kind_iff.2 owns.kind, attr_came, options_came, came,
        holds_iff.1 owns.extra⟩
    · cases n
      simp_all [Found.node?]

theorem nodes?_iff {items : List Written} {ns : List Node}
    (inside : ∀ item ∈ items, ∀ n, Node.ofWritten? item = some n ↔ Denotes item n) :
    nodes? items = some ns ↔ List.Forall₂ Denotes items ns := by
  induction items generalizing ns with
  | nil =>
      cases ns <;> simp [nodes?]
  | cons item items ih =>
      obtain ⟨here, later⟩ := List.forall_mem_cons.1 inside
      cases ns with
      | nil =>
          rw [nodes?]
          split <;> simp
      | cons n ns =>
          rw [List.forall₂_cons, ← here, ← ih later, nodes?]
          cases Node.ofWritten? item <;> cases nodes? items <;> simp

theorem child_induction {motive : Written → Prop}
    (other : ∀ w : Written, (∀ members, w ≠ .record members) → motive w)
    (record : ∀ members : List (String × Written),
      (∀ items, given members "children" = [.list items] → ∀ item ∈ items, motive item) →
        motive (.record members)) (w : Written) : motive w := by
  suffices both : motive w ∧ ∀ items, w = .list items → ∀ item ∈ items, motive item from both.1
  induction w using Written.induction with
  | simple w simple =>
      refine ⟨other w ?_, ?_⟩
      · rintro members rfl
        exact simple.2 rfl
      · rintro items rfl
        exact absurd rfl simple.1
  | list items ih =>
      refine ⟨other _ nofun, fun items' same => ?_⟩
      cases same
      exact fun item known => (ih item known).1
  | record members ih =>
      refine ⟨record members fun items present => ?_, nofun⟩
      have known : ("children", .list items) ∈ members :=
        mem_of_given present
      exact (ih _ known).2 items rfl

theorem ofWritten?_iff : Node.ofWritten? w = some n ↔ Denotes w n := by
  induction w using child_induction generalizing n with
  | other w no_record =>
      cases w with
      | record members => exact absurd rfl (no_record members)
      | _ => exact ⟨nofun, nofun⟩
  | record members ih =>
      rw [ofWritten?_record]
      constructor
      · rintro ⟨owns, found, ⟨absent, rfl⟩ | ⟨-, value, ns, present, reads, rfl⟩, children_eq⟩
        · exact .leaf owns absent children_eq
        · cases value with
          | list items =>
              have inside := (nodes?_iff fun item known n => ih items present item known).1 reads
              exact .branch owns present (by simpa [children_eq] using inside)
          | _ => simp [childrenOf?] at reads
      · intro denotes
        cases denotes with
        | leaf owns absent no_children => exact ⟨owns, none, .inl ⟨absent, rfl⟩, no_children⟩
        | @branch _ items _ owns present inside =>
            have reads := (nodes?_iff fun item known n => ih items present item known).2 inside
            exact ⟨owns, _, .inr ⟨rfl, _, _, present, reads, rfl⟩, rfl⟩

theorem Denotes.is_record (denotes : Denotes w n) : ∃ members, w = .record members := by
  cases denotes <;> exact ⟨_, rfl⟩

theorem Denotes.unique {n' : Node} (denotes : Denotes w n) (denotes' : Denotes w n') : n = n' :=
  Option.some.inj ((ofWritten?_iff.2 denotes).symm.trans (ofWritten?_iff.2 denotes'))

theorem exists_texts_iff : (∃ pairs, members = Node.textMembers pairs) ↔
    ∀ member ∈ members, member.2.kind = .text := by
  constructor
  · rintro ⟨pairs, rfl⟩ member known
    obtain ⟨pair, -, rfl⟩ := List.mem_map.1 known
    rfl
  · intro texts
    induction members with
    | nil => exact ⟨[], rfl⟩
    | cons member members ih =>
        obtain ⟨is_text, texts⟩ := List.forall_mem_cons.1 texts
        obtain ⟨pairs, rfl⟩ := ih texts
        obtain ⟨name, value⟩ := member
        cases value with
        | text s => exact ⟨(name, s) :: pairs, rfl⟩
        | _ => cases is_text

theorem exists_attributesGiven_iff {values : List Written} :
    (∃ attr, AttributesGiven values attr) ↔ values = [] ∨ values = [.null] ∨
      ∃ texts, values = [.record texts] ∧ ∀ member ∈ texts, member.2.kind = .text := by
  constructor
  · rintro ⟨_, given⟩
    cases given with
    | absent => exact .inl rfl
    | null => exact .inr (.inl rfl)
    | record => exact .inr (.inr ⟨_, rfl, exists_texts_iff.1 ⟨_, rfl⟩⟩)
  · rintro (rfl | rfl | ⟨texts, rfl, all_texts⟩)
    · exact ⟨_, .absent⟩
    · exact ⟨_, .null⟩
    · obtain ⟨pairs, rfl⟩ := exists_texts_iff.2 all_texts
      exact ⟨_, .record holds_put⟩

theorem exists_optionsGiven_iff {values : List Written} :
    (∃ options, OptionsGiven values options) ↔ values = [] ∨ values = [.null] ∨
      ∃ inner, values = [.record inner] := by
  constructor
  · rintro ⟨_, given⟩
    cases given with
    | absent => exact .inl rfl
    | null => exact .inr (.inl rfl)
    | record => exact .inr (.inr ⟨_, rfl⟩)
  · rintro (rfl | rfl | ⟨inner, rfl⟩)
    · exact ⟨_, .absent⟩
    · exact ⟨_, .null⟩
    · exact ⟨_, .record holds_put⟩

theorem Owns.named (owns : Owns members n) : NodeMembers members where
  kind := ⟨_, owns.kind⟩
  attr := exists_attributesGiven_iff.1 ⟨_, owns.attr⟩
  options := exists_optionsGiven_iff.1 ⟨_, owns.options⟩

theorem NodeMembers.exists_owns (named : NodeMembers members) (children : List Node) :
    ∃ n, Owns members n ∧ n.children = children := by
  obtain ⟨kind, is_kind⟩ := named.kind
  obtain ⟨attr, attr_given⟩ := exists_attributesGiven_iff.2 named.attr
  obtain ⟨options, options_given⟩ := exists_optionsGiven_iff.2 named.options
  exact ⟨⟨kind, attr, options, children, _⟩, ⟨is_kind, attr_given, options_given, holds_put⟩, rfl⟩

theorem exists_forall₂_iff {items : List Written} :
    (∃ ns, List.Forall₂ Denotes items ns) ↔ ∀ item ∈ items, ∃ n, Denotes item n := by
  induction items with
  | nil => simp
  | cons item items ih =>
      rw [List.forall_mem_cons, ← ih]
      constructor
      · rintro ⟨_, all⟩
        cases all with
        | cons here later => exact ⟨⟨_, here⟩, _, later⟩
      · rintro ⟨⟨n, here⟩, ns, later⟩
        exact ⟨n :: ns, .cons here later⟩

theorem shaped_iff : Shaped w ↔ ∃ n, Denotes w n := by
  induction w using child_induction with
  | other w no_record =>
      cases w with
      | record members => exact absurd rfl (no_record members)
      | _ => exact ⟨nofun, fun ⟨_, denotes⟩ => nomatch denotes⟩
  | record members ih =>
      constructor
      · intro shaped
        cases shaped with
        | leaf named absent =>
            obtain ⟨n, owns, no_children⟩ := named.exists_owns []
            exact ⟨n, .leaf owns absent no_children⟩
        | @branch _ items named present inside =>
            obtain ⟨ns, all⟩ := exists_forall₂_iff.2 fun item known =>
              (ih items present item known).1 (inside item known)
            obtain ⟨n, owns, rfl⟩ := named.exists_owns ns
            exact ⟨n, .branch owns present all⟩
      · rintro ⟨n, denotes⟩
        cases denotes with
        | leaf owns absent => exact .leaf owns.named absent
        | @branch _ items _ owns present inside =>
            exact .branch owns.named present fun item known =>
              (ih items present item known).2 (exists_forall₂_iff.1 ⟨_, inside⟩ item known)

theorem free_open : nodeSchema.Open .free := by
  constructor <;> simp [nodeSchema]

theorem once_of_given (single : ∀ name ∈ namedMembers, (given members name).length ≤ 1) :
    nodeSchema.Once .node members := by
  induction members with
  | nil => exact .nil
  | cons member members ih =>
      obtain ⟨name, value⟩ := member
      refine List.pairwise_cons.2 ⟨fun later known only_once same => ?_, ih fun key named => ?_⟩
      · have named : name ∈ namedMembers := by simpa [nodeSchema] using only_once
        have one := single name named
        rw [given_same, List.length_cons] at one
        have none : given members name = [] := List.length_eq_zero_iff.1 (by omega)
        exact Dict.given_eq_nil_iff.1 none later known same
      · refine Nat.le_trans ?_ (single key named)
        rw [given_cons]
        split <;> simp

theorem NodeMembers.single (named : NodeMembers members)
    (children : given members "children" = [] ∨ ∃ items, given members "children" = [.list items]) :
    ∀ name ∈ namedMembers, (given members name).length ≤ 1 := by
  simp only [namedMembers, List.forall_mem_cons]
  refine ⟨?_, ?_, ?_, ?_, by simp⟩
  · obtain ⟨s, values_eq⟩ := named.kind
    simp [values_eq]
  · rcases named.attr with values_eq | values_eq | ⟨texts, values_eq, -⟩ <;> simp [values_eq]
  · rcases named.options with values_eq | values_eq | ⟨inner, values_eq⟩ <;> simp [values_eq]
  · rcases children with values_eq | ⟨items, values_eq⟩ <;> simp [values_eq]

theorem conforms_record {place : Place} (admits : nodeSchema.admits place .record = true)
    (no_node : place ≠ .node)
    (inside : ∀ member ∈ members, Conforms nodeSchema (nodeSchema.member place member.1) member.2) :
    Conforms nodeSchema place (.record members) := by
  refine .record admits inside (List.pairwise_of_forall fun a b only_once => ?_) ?_
  · simp [nodeSchema, no_node] at only_once
  · cases place <;> simp_all [nodeSchema]

theorem NodeMembers.conforms (named : NodeMembers members)
    (children : given members "children" = [] ∨ ∃ items, given members "children" = [.list items] ∧
      ∀ item ∈ items, Conforms nodeSchema .node item) {name : String} {value : Written}
    (known : value ∈ given members name) : Conforms nodeSchema (nodeMember name) value := by
  unfold nodeMember
  split
  · obtain ⟨s, values_eq⟩ := named.kind
    obtain rfl : value = .text s := by simpa [values_eq] using known
    exact .scalar (by simp [Written.Simple, Written.kind]) rfl
  · rcases named.attr with values_eq | values_eq | ⟨texts, values_eq, all_texts⟩
    · simp [values_eq] at known
    · obtain rfl : value = .null := by simpa [values_eq] using known
      exact .scalar (by simp [Written.Simple, Written.kind]) rfl
    · obtain rfl : value = .record texts := by simpa [values_eq] using known
      refine conforms_record rfl (by simp) fun member inner => ?_
      have is_text := all_texts member inner
      exact .scalar (by simp [Written.Simple, is_text]) (by simp [is_text, nodeSchema])
  · rcases named.options with values_eq | values_eq | ⟨inner, values_eq⟩
    · simp [values_eq] at known
    · obtain rfl : value = .null := by simpa [values_eq] using known
      exact .scalar (by simp [Written.Simple, Written.kind]) rfl
    · obtain rfl : value = .record inner := by simpa [values_eq] using known
      exact conforms_record rfl (by simp) fun member _ => free_open.conforms member.2
  · rcases children with values_eq | ⟨items, values_eq, inside⟩
    · simp [values_eq] at known
    · obtain rfl : value = .list items := by simpa [values_eq] using known
      exact .list rfl inside
  · exact free_open.conforms value

theorem Shaped.conforms (shaped : Shaped w) : Conforms nodeSchema .node w := by
  induction w using child_induction with
  | other w no_record =>
      cases shaped with
      | leaf => exact absurd rfl (no_record _)
      | branch => exact absurd rfl (no_record _)
  | record members ih =>
      have parts : NodeMembers members ∧ (given members "children" = [] ∨ ∃ items,
          given members "children" = [.list items] ∧
            ∀ item ∈ items, Conforms nodeSchema .node item) := by
        cases shaped with
        | leaf named absent => exact ⟨named, .inl absent⟩
        | @branch _ items named present inside =>
            exact ⟨named, .inr ⟨items, present, fun item known =>
              ih items present item known (inside item known)⟩⟩
      obtain ⟨named, children⟩ := parts
      obtain ⟨s, is_kind⟩ := named.kind
      have single := named.single (children.imp_right fun ⟨items, present, _⟩ => ⟨items, present⟩)
      refine .record rfl (fun member known => named.conforms children (mem_given.2 known))
        (once_of_given single) fun name needed => ?_
      obtain rfl : name = "type" := by simpa [nodeSchema] using needed
      exact ⟨("type", .text s), mem_of_given is_kind, rfl⟩

theorem ofText?_iff {text : String} : Node.ofText? text = .ok n ↔
    ∃ w, IsText w text.toList ∧ w.depth ≤ 127 ∧ Denotes w n := by
  constructor
  · intro reads
    unfold Node.ofText? at reads
    split at reads
    · simp at reads
    · next w found =>
        obtain ⟨is_text, depth, -⟩ := read_iff.1 found
        split at reads
        · next denoted =>
            cases reads
            exact ⟨w, is_text, depth, ofWritten?_iff.1 denoted⟩
        · simp at reads
  · rintro ⟨w, is_text, depth, denotes⟩
    have found := read_iff.2 ⟨is_text, depth, (shaped_iff.2 ⟨n, denotes⟩).conforms⟩
    simp [Node.ofText?, found, ofWritten?_iff.2 denotes]

end LessonAudit.Tree
