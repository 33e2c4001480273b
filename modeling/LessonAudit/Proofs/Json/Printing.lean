import LessonAudit.Proofs.Json.Reading
set_option autoImplicit false

namespace LessonAudit.Json

open Reader

def Number.ReadsBack (x : Number) : Prop :=
  Value.ofText? (String.ofList x.write) = .ok (.number x)

def Number.InRange : Number → Prop
  | .natural n => n < naturalLimit
  | .negative n => 0 < n ∧ n ≤ negativeLimit
  | .double _ => True

inductive Written.Occurs (x : Number) : Written → Prop
  | here : Occurs x (.number x)
  | item {items : List Written} {item : Written} (known : item ∈ items) (inside : Occurs x item) :
      Occurs x (.list items)
  | member {members : List (String × Written)} {member : String × Written}
      (known : member ∈ members) (inside : Occurs x member.2) : Occurs x (.record members)

variable {c : Char} {n : Nat} {x : Number} {w value : Written} {cs rest text digits : List Char}

section Occurs

@[simp] theorem occurs_number {y : Number} : (Written.number y).Occurs x ↔ y = x :=
  ⟨fun occurs => by cases occurs; rfl, fun same => same ▸ .here⟩

@[simp] theorem occurs_list {items : List Written} :
    (Written.list items).Occurs x ↔ ∃ item ∈ items, item.Occurs x :=
  ⟨fun | .item known inside => ⟨_, known, inside⟩, fun ⟨_, known, inside⟩ => .item known inside⟩

@[simp] theorem occurs_record {members : List (String × Written)} :
    (Written.record members).Occurs x ↔ ∃ member ∈ members, member.2.Occurs x :=
  ⟨fun | .member known inside => ⟨_, known, inside⟩, fun ⟨_, known, inside⟩ => .member known inside⟩

@[simp] theorem not_occurs_text (s : String) : ¬ (Written.text s).Occurs x := nofun

end Occurs

theorem isHexDigit_hexDigit : ∀ n < 16, IsHexDigit (Written.hexDigit n) n := by
  unfold IsHexDigit
  decide

theorem eq_of_toNat (same : c.toNat = n) : Char.ofNat n = c := by
  rw [← same, Char.ofNat_toNat]

theorem spells_control (control : c.toNat < 32) : SpellsChar c
    ['\\', 'u', '0', '0', Written.hexDigit (c.toNat / 16), Written.hexDigit (c.toNat % 16)] := by
  have written : SpellsUnit (16 * (16 * (16 * 0 + 0) + c.toNat / 16) + c.toNat % 16)
      ['0', '0', Written.hexDigit (c.toNat / 16), Written.hexDigit (c.toNat % 16)] :=
    .intro (.inl rfl) (.inl rfl) (isHexDigit_hexDigit _ (by omega)) (isHexDigit_hexDigit _ (by omega))
  have code : 16 * (16 * (16 * 0 + 0) + c.toNat / 16) + c.toNat % 16 = c.toNat := by omega
  rw [code] at written
  have spelled := SpellsChar.unit written (.inl (by omega))
  rwa [Char.ofNat_toNat] at spelled

theorem spells_escapeChar (c : Char) : SpellsChar c (Written.escapeChar c) := by
  unfold Written.escapeChar
  split_ifs with quote escape is_b is_t is_n is_f is_r control
  · subst quote
    exact .escape (by decide)
  · subst escape
    exact .escape (by decide)
  · exact eq_of_toNat is_b ▸ .escape (by decide)
  · exact eq_of_toNat is_t ▸ .escape (by decide)
  · exact eq_of_toNat is_n ▸ .escape (by decide)
  · exact eq_of_toNat is_f ▸ .escape (by decide)
  · exact eq_of_toNat is_r ▸ .escape (by decide)
  · exact spells_control control
  · exact .plain quote escape (by omega)

theorem spells_escaped (chars : List Char) :
    SpellsChars chars (chars.flatMap Written.escapeChar) := by
  induction chars with
  | nil => exact .nil
  | cons c chars ih => exact .cons (spells_escapeChar c) ih

theorem decimal_toDigits (n : Nat) : decimal (Nat.toDigits 10 n) = n := by
  have same : decimal (Nat.toDigits 10 n) = Nat.ofDigitChars 10 (Nat.toDigits 10 n) 0 := by
    simp only [decimal, decimalFrom, Nat.ofDigitChars_eq_foldl, Nat.mul_comm]
  rw [same, Nat.ofDigitChars_ten_toDigits]

theorem isDigits_toDigits (n : Nat) : IsDigits (Nat.toDigits 10 n) :=
  ⟨Nat.toDigits_ne_nil, fun _ => Nat.isDigit_of_mem_toDigits (by decide) (by decide)⟩

theorem no_leading_zero (n : Nat) (zero : (Nat.toDigits 10 n).head? = some '0') :
    Nat.toDigits 10 n = ['0'] := by
  induction n using Nat.strongRecOn with
  | _ n ih =>
      rw [Nat.toDigits_eq_if (by decide)] at zero ⊢
      split
      · next single => simpa [single] using zero
      · next long =>
          rw [if_neg long, List.head?_append, Option.or_eq_some_iff] at zero
          rcases zero with zero | ⟨none, -⟩
          · have nothing := congrArg decimal (ih (n / 10) (by omega) zero)
            rw [decimal_toDigits] at nothing
            have nothing : n / 10 = 0 := nothing
            omega
          · exact absurd (List.head?_eq_none_iff.1 none) Nat.toDigits_ne_nil

theorem spells_natural (small : n < Number.naturalLimit) :
    SpellsUnsigned false (.natural n) (Nat.toDigits 10 n) := by
  have digits_eq := decimal_toDigits n
  have stands_for : StandsFor false (Nat.toDigits 10 n) [] none (.natural n) := by
    have whole := StandsFor.natural ⟨rfl, rfl⟩ rfl (digits_eq.symm ▸ small)
    rwa [digits_eq] at whole
  simpa using SpellsUnsigned.intro (isDigits_toDigits n) (no_leading_zero n) .absent .absent stands_for

theorem spells_negative (bounds : 0 < n ∧ n ≤ Number.negativeLimit) :
    SpellsUnsigned true (.negative n) (Nat.toDigits 10 n) := by
  have digits_eq := decimal_toDigits n
  have stands_for : StandsFor true (Nat.toDigits 10 n) [] none (.negative n) := by
    have whole := StandsFor.negative ⟨rfl, rfl⟩ rfl (digits_eq.symm ▸ bounds.1)
      (digits_eq.symm ▸ bounds.2)
    rwa [digits_eq] at whole
  simpa using SpellsUnsigned.intro (isDigits_toDigits n) (no_leading_zero n) .absent .absent stands_for

theorem SpellsUnsigned.inRange {negative : Bool} (written : SpellsUnsigned negative x text) :
    x.InRange := by
  obtain ⟨-, -, -, -, stands_for⟩ := written
  cases stands_for with
  | natural _ _ fits => exact fits
  | negative _ _ some fits => exact ⟨some, fits⟩
  | double => trivial

theorem inRange_of_spells (written : SpellsNumber x text) : x.InRange := by
  cases written with
  | unsigned written | signed written => exact written.inRange

theorem isText_of_spells (written : Spells w text) : IsText w text := by
  simpa using IsText.intro isGap_nil written isGap_nil

theorem isText_of_readsBack (reads_back : x.ReadsBack) : IsText (.number x) x.write := by
  obtain ⟨w, reads, value_eq⟩ := exists_of_map reads_back
  rw [String.toList_ofList] at reads
  obtain ⟨is_text, -⟩ := read_iff.1 reads
  cases w with
  | number y =>
      cases value_eq
      exact is_text
  | _ => cases value_eq

theorem isText_number (in_range : x.InRange) (doubles : ∀ d, x = .double d → x.ReadsBack) :
    IsText (.number x) x.write := by
  cases x with
  | natural n => exact isText_of_spells (.number (.unsigned (spells_natural in_range)))
  | negative n => exact isText_of_spells (.number (.signed (spells_negative in_range)))
  | double d => exact isText_of_readsBack (doubles d rfl)

theorem exists_spells_of_item {items : List Written} (written : SpellsItems items text)
    {item : Written} (known : item ∈ items) : ∃ text, Spells item text := by
  induction items generalizing text with
  | nil => simp at known
  | cons first items ih =>
      cases written with
      | last _ written =>
          obtain rfl := List.mem_singleton.1 known
          exact ⟨_, written⟩
      | more _ written _ _ later =>
          rcases List.mem_cons.1 known with rfl | known
          · exact ⟨_, written⟩
          · exact ih later known

theorem exists_spells_of_member {members : List (String × Written)}
    (written : SpellsMembers members text) {member : String × Written} (known : member ∈ members) :
    ∃ text, Spells member.2 text := by
  induction members generalizing text with
  | nil => simp at known
  | cons first members ih =>
      cases written with
      | last _ _ _ _ written =>
          obtain rfl := List.mem_singleton.1 known
          exact ⟨_, written⟩
      | more _ _ _ _ written _ _ later =>
          rcases List.mem_cons.1 known with rfl | known
          · exact ⟨_, written⟩
          · exact ih later known

theorem inRange_of_occurs (written : Spells w text) (occurs : w.Occurs x) : x.InRange := by
  induction occurs generalizing text with
  | here =>
      cases written with
      | number written => exact inRange_of_spells written
  | item known _ ih =>
      cases written with
      | list written =>
          obtain ⟨_, written⟩ := exists_spells_of_item written known
          exact ih written
  | member known _ ih =>
      cases written with
      | record written =>
          obtain ⟨_, written⟩ := exists_spells_of_member written known
          exact ih written

theorem inRange_of_isText (is_text : IsText w text) (occurs : w.Occurs x) : x.InRange := by
  obtain ⟨_, written, _⟩ := is_text
  exact inRange_of_occurs written occurs

theorem spells_last_item (is_text : IsText w text) : SpellsItems [w] text := by
  obtain ⟨gap, written, gap_after⟩ := is_text
  exact .last gap written gap_after

theorem spells_more_items {items : List Written} (is_text : IsText w text) (some_item : items ≠ [])
    (later : SpellsItems items rest) : SpellsItems (w :: items) (text ++ ',' :: rest) := by
  obtain ⟨gap, written, gap_after⟩ := is_text
  simpa using SpellsItems.more gap written gap_after some_item later

theorem spells_last_member (name : String) (is_text : IsText w text) :
    SpellsMembers [(name, w)] (Written.quote name ++ ':' :: text) := by
  obtain ⟨gap, written, gap_after⟩ := is_text
  simpa [Written.quote] using
    SpellsMembers.last isGap_nil (spells_escaped name.toList) isGap_nil gap written gap_after

theorem spells_more_members {members : List (String × Written)} (name : String)
    (is_text : IsText w text) (some_member : members ≠ []) (later : SpellsMembers members rest) :
    SpellsMembers ((name, w) :: members) (Written.quote name ++ ':' :: (text ++ ',' :: rest)) := by
  obtain ⟨gap, written, gap_after⟩ := is_text
  simpa [Written.quote] using SpellsMembers.more isGap_nil (spells_escaped name.toList) isGap_nil gap
    written gap_after some_member later

theorem compactItems_spells {items : List Written}
    (inside : ∀ item ∈ items, IsText item item.compact) :
    ∃ text, SpellsItems items text ∧ Written.compactItems items = text ++ [']'] := by
  induction items with
  | nil => exact ⟨[], .none isGap_nil, rfl⟩
  | cons item items ih =>
      obtain ⟨here, inside⟩ := List.forall_mem_cons.1 inside
      obtain ⟨rest, later, rest_eq⟩ := ih inside
      cases items with
      | nil => exact ⟨_, spells_last_item here, by rw [Written.compactItems]⟩
      | cons next items =>
          refine ⟨_, spells_more_items here (by simp) later, ?_⟩
          rw [Written.compactItems, rest_eq]
          · simp
          · simp

theorem compactMembers_spells {members : List (String × Written)}
    (inside : ∀ member ∈ members, IsText member.2 member.2.compact) :
    ∃ text, SpellsMembers members text ∧ Written.compactMembers members = text ++ ['}'] := by
  induction members with
  | nil => exact ⟨[], .none isGap_nil, rfl⟩
  | cons member members ih =>
      obtain ⟨name, value⟩ := member
      obtain ⟨here, inside⟩ := List.forall_mem_cons.1 inside
      obtain ⟨rest, later, rest_eq⟩ := ih inside
      cases members with
      | nil =>
          refine ⟨_, spells_last_member name here, ?_⟩
          rw [Written.compactMembers]
          simp
      | cons next members =>
          refine ⟨_, spells_more_members name here (by simp) later, ?_⟩
          rw [Written.compactMembers, rest_eq]
          · simp
          · simp

theorem isText_compact (numbers : ∀ x, w.Occurs x → IsText (.number x) x.write) :
    IsText w w.compact := by
  induction w using Written.induction with
  | simple w simple =>
      cases w with
      | null => exact isText_of_spells .null
      | flag b =>
          cases b with
          | true => exact isText_of_spells .yes
          | false => exact isText_of_spells .no
      | number x => exact numbers x .here
      | text s => exact isText_of_spells (.text (spells_escaped s.toList))
      | list => exact absurd rfl simple.1
      | record => exact absurd rfl simple.2
  | list items ih =>
      obtain ⟨text, written, text_eq⟩ := compactItems_spells fun item known =>
        ih item known fun x occurs => numbers x (.item known occurs)
      rw [Written.compact, text_eq]
      exact isText_of_spells (.list written)
  | record members ih =>
      obtain ⟨text, written, text_eq⟩ := compactMembers_spells fun member known =>
        ih member known fun x occurs => numbers x (.member known occurs)
      rw [Written.compact, text_eq]
      exact isText_of_spells (.record written)

end LessonAudit.Json
