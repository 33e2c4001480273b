import LessonAudit.Json.Reader
import LessonAudit.Proofs.Decimal.Nearest
set_option autoImplicit false

namespace LessonAudit.Json

open Decimal (Double)

def IsHexDigit (c : Char) (n : Nat) : Prop :=
  "0123456789abcdef".toList[n]? = some c ∨ "0123456789ABCDEF".toList[n]? = some c

def escapes : List (Char × Char) :=
  [('"', '"'), ('\\', '\\'), ('/', '/'), ('b', '\x08'), ('f', '\x0c'), ('n', '\n'), ('r', '\r'),
    ('t', '\t')]

inductive SpellsUnit : Nat → List Char → Prop
  | intro {a b c d : Char} {i j k l : Nat} (first : IsHexDigit a i) (second : IsHexDigit b j)
      (third : IsHexDigit c k) (fourth : IsHexDigit d l) :
      SpellsUnit (16 * (16 * (16 * i + j) + k) + l) [a, b, c, d]

inductive SpellsChar : Char → List Char → Prop
  | plain {c : Char} (no_quote : c ≠ '"') (no_escape : c ≠ '\\') (no_control : 32 ≤ c.toNat) :
      SpellsChar c [c]
  | escape {letter c : Char} (known : (letter, c) ∈ escapes) :
      SpellsChar c ['\\', letter]
  | unit {n : Nat} {digits : List Char} (written : SpellsUnit n digits)
      (single : n < 0xD800 ∨ 0xDFFF < n) : SpellsChar (Char.ofNat n) ('\\' :: 'u' :: digits)
  | pair {high low : Nat} {digits more : List Char} (written : SpellsUnit high digits)
      (is_high : 0xD800 ≤ high ∧ high < 0xDC00) (written_low : SpellsUnit low more)
      (is_low : 0xDC00 ≤ low ∧ low ≤ 0xDFFF) :
      SpellsChar (Char.ofNat (0x10000 + (high - 0xD800) * 0x400 + (low - 0xDC00)))
        ('\\' :: 'u' :: (digits ++ '\\' :: 'u' :: more))

inductive SpellsChars : List Char → List Char → Prop
  | nil : SpellsChars [] []
  | cons {c : Char} {chars piece text : List Char} (first : SpellsChar c piece)
      (later : SpellsChars chars text) : SpellsChars (c :: chars) (piece ++ text)

structure IsDigits (cs : List Char) : Prop where
  some_digit : cs ≠ []
  only_digits : ∀ c ∈ cs, c.isDigit = true

def decimalFrom (start : Nat) (digits : List Char) : Nat :=
  digits.foldl (fun n c => n * 10 + (c.toNat - '0'.toNat)) start

def decimal (digits : List Char) : Nat :=
  decimalFrom 0 digits

inductive SpellsFraction : List Char → List Char → Prop
  | absent : SpellsFraction [] []
  | present {digits : List Char} (is_digits : IsDigits digits) :
      SpellsFraction digits ('.' :: digits)

inductive SpellsExponent : Option Int → List Char → Prop
  | absent : SpellsExponent none []
  | plain {mark : Char} {digits : List Char} (is_mark : mark = 'e' ∨ mark = 'E')
      (is_digits : IsDigits digits) : SpellsExponent (some (decimal digits)) (mark :: digits)
  | plus {mark : Char} {digits : List Char} (is_mark : mark = 'e' ∨ mark = 'E')
      (is_digits : IsDigits digits) : SpellsExponent (some (decimal digits)) (mark :: '+' :: digits)
  | minus {mark : Char} {digits : List Char} (is_mark : mark = 'e' ∨ mark = 'E')
      (is_digits : IsDigits digits) :
      SpellsExponent (some (-(decimal digits : Int))) (mark :: '-' :: digits)

-- The digits that 64 bits take behind a number, up to the first that they have no room for.
structure Taken (start : Nat) (digits taken rest : List Char) : Prop where
  digits_eq : digits = taken ++ rest
  fits : decimalFrom start taken < 2 ^ 64
  full : ∀ c ∈ rest.head?, 2 ^ 64 ≤ decimalFrom start (taken ++ [c])

-- Division by a power of ten, in steps of at most 308 places and with rounding in each.
inductive Divided : Double → Nat → Double → Prop
  | last {x power y : Double} {places : Nat} (few : places ≤ 308)
      (is_power : Double.Nearest (10 ^ places) power)
      (quotient : Double.Nearest (x.value / power.value) y) : Divided x places y
  | zero {x : Double} {places : Nat} (many : 308 < places) (none : x.mantissa = 0) :
      Divided x places x
  | step {x power y z : Double} {places : Nat} (many : 308 < places) (some : x.mantissa ≠ 0)
      (is_power : Double.Nearest (10 ^ 308) power)
      (quotient : Double.Nearest (x.value / power.value) y) (later : Divided y (places - 308) z) :
      Divided x places z

inductive Moved : Double → Int → Double → Prop
  | left {x y : Double} {places : Nat} (some_place : 0 < places) (divided : Divided x places y) :
      Moved x (-places) y
  | right {x power y : Double} {places : Nat} (few : places ≤ 308)
      (is_power : Double.Nearest (10 ^ places) power)
      (product : Double.Nearest (x.value * power.value) y) : Moved x places y
  | zero {x : Double} {places : Nat} (many : 308 < places) (none : x.mantissa = 0) :
      Moved x places x

inductive StandsFor (negative : Bool) (whole fraction : List Char) (exponent : Option Int) :
    Number → Prop
  | natural (plain : fraction = [] ∧ exponent = none) (unsigned : negative = false)
      (fits : decimal whole < 2 ^ 64) :
      StandsFor negative whole fraction exponent (.natural (decimal whole))
  | negative (plain : fraction = [] ∧ exponent = none) (signed : negative = true)
      (some : 0 < decimal whole) (fits : decimal whole ≤ 2 ^ 63) :
      StandsFor negative whole fraction exponent (.negative (decimal whole))
  | double {taken rest taken' rest' : List Char} {x y : Double}
      (no_whole : fraction = [] ∧ exponent = none →
        if negative then decimal whole = 0 ∨ 2 ^ 63 < decimal whole else 2 ^ 64 ≤ decimal whole)
      (before : Taken 0 whole taken rest) (behind : Taken (decimal taken) fraction taken' rest')
      (digits : Double.Nearest (decimalFrom (decimal taken) taken') x)
      (moved : Moved x (rest.length - taken'.length + exponent.getD 0) y) :
      StandsFor negative whole fraction exponent (.double (y.withSign negative))

inductive SpellsUnsigned (negative : Bool) : Number → List Char → Prop
  | intro {x : Number} {whole fraction text text' : List Char} {exponent : Option Int}
      (is_whole : IsDigits whole) (no_leading_zero : whole.head? = some '0' → whole = ['0'])
      (fraction_text : SpellsFraction fraction text) (exponent_text : SpellsExponent exponent text')
      (stands_for : StandsFor negative whole fraction exponent x) :
      SpellsUnsigned negative x (whole ++ (text ++ text'))

inductive SpellsNumber : Number → List Char → Prop
  | unsigned {x : Number} {text : List Char} (written : SpellsUnsigned false x text) :
      SpellsNumber x text
  | signed {x : Number} {text : List Char} (written : SpellsUnsigned true x text) :
      SpellsNumber x ('-' :: text)

def IsGap (cs : List Char) : Prop :=
  ∀ c ∈ cs, c = ' ' ∨ c = '\t' ∨ c = '\n' ∨ c = '\r'

theorem isGap_nil : IsGap [] := by
  simp [IsGap]

mutual

inductive Spells : Written → List Char → Prop
  | null : Spells .null ['n', 'u', 'l', 'l']
  | yes : Spells (.flag true) ['t', 'r', 'u', 'e']
  | no : Spells (.flag false) ['f', 'a', 'l', 's', 'e']
  | number {x : Number} {text : List Char} (written : SpellsNumber x text) :
      Spells (.number x) text
  | text {s : String} {text : List Char} (written : SpellsChars s.toList text) :
      Spells (.text s) ('"' :: (text ++ ['"']))
  | list {items : List Written} {text : List Char} (written : SpellsItems items text) :
      Spells (.list items) ('[' :: (text ++ [']']))
  | record {members : List (String × Written)} {text : List Char}
      (written : SpellsMembers members text) : Spells (.record members) ('{' :: (text ++ ['}']))

inductive SpellsItems : List Written → List Char → Prop
  | none {gap : List Char} (is_gap : IsGap gap) : SpellsItems [] gap
  | last {item : Written} {before text after : List Char} (gap_before : IsGap before)
      (written : Spells item text) (gap_after : IsGap after) :
      SpellsItems [item] (before ++ (text ++ after))
  | more {item : Written} {items : List Written} {before text after rest : List Char}
      (gap_before : IsGap before) (written : Spells item text) (gap_after : IsGap after)
      (some_item : items ≠ []) (later : SpellsItems items rest) :
      SpellsItems (item :: items) (before ++ (text ++ (after ++ ',' :: rest)))

inductive SpellsMembers : List (String × Written) → List Char → Prop
  | none {gap : List Char} (is_gap : IsGap gap) : SpellsMembers [] gap
  | last {name : String} {value : Written} {before quoted between ahead text after : List Char}
      (gap_before : IsGap before) (named : SpellsChars name.toList quoted)
      (gap_between : IsGap between) (gap_ahead : IsGap ahead) (written : Spells value text)
      (gap_after : IsGap after) :
      SpellsMembers [(name, value)]
        (before ++ '"' :: (quoted ++ '"' :: (between ++ ':' :: (ahead ++ (text ++ after)))))
  | more {name : String} {value : Written} {members : List (String × Written)}
      {before quoted between ahead text after rest : List Char} (gap_before : IsGap before)
      (named : SpellsChars name.toList quoted) (gap_between : IsGap between)
      (gap_ahead : IsGap ahead) (written : Spells value text) (gap_after : IsGap after)
      (some_member : members ≠ []) (later : SpellsMembers members rest) :
      SpellsMembers ((name, value) :: members)
        (before ++ '"' :: (quoted ++ '"' :: (between ++ ':' ::
          (ahead ++ (text ++ (after ++ ',' :: rest))))))

end

inductive IsText : Written → List Char → Prop
  | intro {w : Written} {before text after : List Char} (gap_before : IsGap before)
      (written : Spells w text) (gap_after : IsGap after) : IsText w (before ++ (text ++ after))

def Written.Simple (w : Written) : Prop :=
  w.kind ≠ .list ∧ w.kind ≠ .record

mutual

theorem Written.induction {motive : Written → Prop} (simple : ∀ w : Written, w.Simple → motive w)
    (list : ∀ items : List Written, (∀ item ∈ items, motive item) → motive (.list items))
    (record : ∀ members : List (String × Written), (∀ member ∈ members, motive member.2) →
      motive (.record members)) : ∀ w, motive w
  | .null => simple _ ⟨nofun, nofun⟩
  | .flag _ => simple _ ⟨nofun, nofun⟩
  | .number _ => simple _ ⟨nofun, nofun⟩
  | .text _ => simple _ ⟨nofun, nofun⟩
  | .list items => list items (inductionItems simple list record items)
  | .record members => record members (inductionMembers simple list record members)

theorem Written.inductionItems {motive : Written → Prop}
    (simple : ∀ w : Written, w.Simple → motive w)
    (list : ∀ items : List Written, (∀ item ∈ items, motive item) → motive (.list items))
    (record : ∀ members : List (String × Written), (∀ member ∈ members, motive member.2) →
      motive (.record members)) : ∀ items : List Written, ∀ item ∈ items, motive item
  | [] => by simp
  | item :: items => List.forall_mem_cons.2
      ⟨Written.induction simple list record item, inductionItems simple list record items⟩

theorem Written.inductionMembers {motive : Written → Prop}
    (simple : ∀ w : Written, w.Simple → motive w)
    (list : ∀ items : List Written, (∀ item ∈ items, motive item) → motive (.list items))
    (record : ∀ members : List (String × Written), (∀ member ∈ members, motive member.2) →
      motive (.record members)) :
    ∀ members : List (String × Written), ∀ member ∈ members, motive member.2
  | [] => by simp
  | (_, value) :: members => List.forall_mem_cons.2
      ⟨Written.induction simple list record value, inductionMembers simple list record members⟩

end

mutual

def Written.depth : Written → Nat
  | .list items => depthItems items + 1
  | .record members => depthMembers members + 1
  | _ => 0

def Written.depthItems : List Written → Nat
  | [] => 0
  | item :: more => max item.depth (depthItems more)

def Written.depthMembers : List (String × Written) → Nat
  | [] => 0
  | (_, value) :: more => max value.depth (depthMembers more)

end

theorem Written.Simple.depth_eq {w : Written} (simple : w.Simple) : w.depth = 0 := by
  cases w with
  | list items => exact absurd rfl simple.1
  | record members => exact absurd rfl simple.2
  | _ => simp [Written.depth]

theorem Written.depthItems_le_iff {items : List Written} {levels : Nat} :
    depthItems items ≤ levels ↔ ∀ item ∈ items, item.depth ≤ levels := by
  induction items with
  | nil => simp [depthItems]
  | cons item items ih => rw [depthItems, Nat.max_le, ih, List.forall_mem_cons]

theorem Written.depthMembers_le_iff {members : List (String × Written)} {levels : Nat} :
    depthMembers members ≤ levels ↔ ∀ member ∈ members, member.2.depth ≤ levels := by
  induction members with
  | nil => simp [depthMembers]
  | cons member members ih => rw [depthMembers, Nat.max_le, ih, List.forall_mem_cons]

theorem Written.depth_le_depthItems {items : List Written} {item : Written} (known : item ∈ items) :
    item.depth ≤ depthItems items :=
  depthItems_le_iff.1 (Nat.le_refl _) item known

theorem Written.depth_le_depthMembers {members : List (String × Written)}
    {member : String × Written} (known : member ∈ members) :
    member.2.depth ≤ depthMembers members :=
  depthMembers_le_iff.1 (Nat.le_refl _) member known

theorem Written.depthItems_replaced {earlier later : List Written} {a b : Written}
    (no_deeper : b.depth ≤ a.depth) :
    depthItems (earlier ++ b :: later) ≤ depthItems (earlier ++ a :: later) := by
  induction earlier with
  | nil =>
      simp only [List.nil_append, depthItems]
      omega
  | cons item earlier ih =>
      simp only [List.cons_append, depthItems]
      omega

theorem Written.depthMembers_replaced {before after : List (String × Written)} {name : String}
    {a b : Written} (no_deeper : b.depth ≤ a.depth) :
    depthMembers (before ++ (name, b) :: after) ≤ depthMembers (before ++ (name, a) :: after) := by
  induction before with
  | nil =>
      simp only [List.nil_append, depthMembers]
      omega
  | cons member before ih =>
      simp only [List.cons_append, depthMembers]
      omega

theorem Written.depth_list_le {items : List Written} {levels : Nat} :
    (list items).depth ≤ levels + 1 ↔ ∀ item ∈ items, item.depth ≤ levels := by
  rw [depth, Nat.add_le_add_iff_right, depthItems_le_iff]

theorem Written.depth_record_le {members : List (String × Written)} {levels : Nat} :
    (record members).depth ≤ levels + 1 ↔ ∀ member ∈ members, member.2.depth ≤ levels := by
  rw [depth, Nat.add_le_add_iff_right, depthMembers_le_iff]

def Schema.Once {σ : Type} (schema : Schema σ) (place : σ) (members : List (String × Written)) :
    Prop :=
  members.Pairwise fun a b => schema.once place a.1 = true → b.1 ≠ a.1

inductive Conforms {σ : Type} (schema : Schema σ) : σ → Written → Prop
  | scalar {place : σ} {w : Written} (simple : w.Simple)
      (admitted : schema.admits place w.kind = true) : Conforms schema place w
  | list {place : σ} {items : List Written} (admitted : schema.admits place .list = true)
      (inside : ∀ item ∈ items, Conforms schema (schema.item place) item) :
      Conforms schema place (.list items)
  | record {place : σ} {members : List (String × Written)}
      (admitted : schema.admits place .record = true)
      (inside : ∀ member ∈ members, Conforms schema (schema.member place member.1) member.2)
      (once : schema.Once place members)
      (needed : ∀ name ∈ schema.needs place, ∃ member ∈ members, member.1 = name) :
      Conforms schema place (.record members)

end LessonAudit.Json
