import LessonAudit.Proofs.Text.Pieces
import LessonAudit.Proofs.Text.Utf8
set_option autoImplicit false

namespace LessonAudit.Text.Utf8

variable {state : Option Pending} {p q : Pending} {a b : UInt8} {c : Char}
variable {bytes front back : List UInt8}

-- What a byte finishes, and the character that is in the making behind it.
def opened (b : UInt8) : List (Option Char) × Option Pending :=
  match start b.toNat with
  | some (.inl c) => ([some c], none)
  | some (.inr p) => ([], some p)
  | none => ([none], none)

def advanced : Option Pending → UInt8 → List (Option Char) × Option Pending
  | none, b => opened b
  | some p, b =>
      match p.next b.toNat with
      | some (.inl c) => ([some c], none)
      | some (.inr q) => ([], some q)
      | none => (none :: (opened b).1, (opened b).2)

theorem pieces_eq_append (state : Option Pending) (done : List (Option Char)) (bytes : List UInt8) :
    pieces state done bytes = done.reverse ++ pieces state [] bytes := by
  induction bytes generalizing state done with
  | nil => cases state <;> simp [pieces]
  | cons b bytes ih =>
      cases state with
      | none =>
          simp only [pieces]
          split
          · rw [ih, ih none [some _]]
            simp
          · exact ih _ done
          · rw [ih, ih none [none]]
            simp
      | some p =>
          simp only [pieces]
          split
          · rw [ih, ih none [some _]]
            simp
          · exact ih _ done
          · split
            · rw [ih, ih none [some _, none]]
              simp
            · rw [ih, ih _ [none]]
              simp
            · rw [ih, ih none [none, none]]
              simp

theorem pieces_cons (state : Option Pending) (b : UInt8) (bytes : List UInt8) :
    pieces state [] (b :: bytes) =
      (advanced state b).1 ++ pieces (advanced state b).2 [] bytes := by
  cases state with
  | none =>
      rcases started : start b.toNat with _ | c | p
      all_goals simp [pieces, advanced, opened, started, pieces_eq_append none [_]]
  | some p =>
      rcases followed : p.next b.toNat with _ | c | q
      · -- the byte does not fit, and is looked at anew
        rcases started : start b.toNat with _ | c | q
        all_goals simp [pieces, advanced, opened, followed, started, pieces_eq_append _ [_],
          pieces_eq_append none [_, _]]
      all_goals simp [pieces, advanced, followed, pieces_eq_append none [_]]

-- Bytes below 0x80 do not go on with a character.
def Far (state : Option Pending) : Prop :=
  ∀ p, state = some p → 0x80 ≤ p.low

theorem far_of_start {n : Nat} (found : start n = some (.inr p)) : 0x80 ≤ p.low := by
  unfold start at found
  repeat' split at found
  all_goals simp only [Option.some.injEq, Sum.inr.injEq, reduceCtorEq] at found
  all_goals
    subst found
    simp

theorem far_of_next {n : Nat} (found : p.next n = some (.inr q)) : 0x80 ≤ q.low := by
  unfold Pending.next at found
  repeat' split at found
  all_goals simp only [Option.some.injEq, Sum.inr.injEq, reduceCtorEq] at found
  subst found
  simp

theorem far_none : Far none := by
  intro p pending
  cases pending

theorem far_opened (b : UInt8) : Far (opened b).2 := by
  intro p pending
  unfold opened at pending
  split at pending
  · cases pending
  · next found =>
      cases pending
      exact far_of_start found
  · cases pending

theorem far_advanced (state : Option Pending) (b : UInt8) : Far (advanced state b).2 := by
  cases state with
  | none => exact far_opened b
  | some p =>
      intro q pending
      simp only [advanced] at pending
      split at pending
      · cases pending
      · next found =>
          cases pending
          exact far_of_next found
      · exact far_opened b q pending

-- An unfinished character ends at such a byte as it would at the end of the text.
theorem advanced_ascii (far : Far state) (ascii : b.toNat < 0x80) :
    advanced state b = (pieces state [] [] ++ [some (Char.ofNat b.toNat)], none) := by
  cases state with
  | none => simp [advanced, opened, start_one ascii, pieces]
  | some p =>
      have low := far p rfl
      have ended : p.next b.toNat = none := by
        rw [Pending.next, if_neg (by omega)]
      simp [advanced, opened, ended, start_one ascii, pieces]

theorem pieces_append_ascii (far : Far state) (ascii : b.toNat < 0x80) (front back : List UInt8) :
    pieces state [] (front ++ b :: back) =
      pieces state [] front ++ some (Char.ofNat b.toNat) :: pieces none [] back := by
  induction front generalizing state with
  | nil => simp [pieces_cons, advanced_ascii far ascii]
  | cons a front ih =>
      rw [List.cons_append, pieces_cons, ih (far_advanced state a), pieces_cons, List.append_assoc]

theorem lossy_append (ascii : b.toNat < 0x80) (front back : List UInt8) :
    lossy (front ++ b :: back) = lossy front ++ Char.ofNat b.toNat :: lossy back := by
  have cut := pieces_append_ascii far_none ascii front back
  simp [lossy, cut]

theorem spells_of_opened (found : some c ∈ (opened b).1) : Spells [b] c := by
  unfold opened at found
  split at found
  · next start_eq =>
      rw [List.mem_singleton, Option.some.injEq] at found
      exact .short (found ▸ start_eq)
  · simp at found
  · simp at found

theorem start_of_opened (pending : (opened b).2 = some q) : start b.toNat = some (.inr q) := by
  unfold opened at pending
  split at pending
  · cases pending
  · next start_eq => rwa [Option.some.inj pending] at start_eq
  · cases pending

theorem exists_spells_of_mem (found : some c ∈ pieces state [] bytes) :
    (∃ p part back, state = some p ∧ bytes = part ++ back ∧ Reads p part c) ∨
      ∃ front part back, bytes = front ++ (part ++ back) ∧ Spells part c := by
  induction bytes generalizing state with
  | nil => cases state <;> simp [pieces] at found
  | cons b bytes ih =>
      have of_opened (inside : some c ∈ (opened b).1 ++ pieces (opened b).2 [] bytes) :
          ∃ front part back, b :: bytes = front ++ (part ++ back) ∧ Spells part c := by
        rcases List.mem_append.1 inside with here | later
        · exact ⟨[], [b], bytes, rfl, spells_of_opened here⟩
        · rcases ih later with ⟨q, part, back, pending, rfl, reads⟩ | ⟨front, part, back, rfl, spells⟩
          · exact ⟨[], b :: part, back, rfl, .long (start_of_opened pending) reads⟩
          · exact ⟨b :: front, part, back, rfl, spells⟩
      rw [pieces_cons] at found
      cases state with
      | none => exact .inr (of_opened found)
      | some p =>
          simp only [advanced] at found
          split at found
          · next next_eq =>
              rcases List.mem_append.1 found with here | later
              · rw [List.mem_singleton, Option.some.injEq] at here
                exact .inl ⟨p, [b], bytes, rfl, rfl, .last (here ▸ next_eq)⟩
              · rcases ih later with ⟨q, -, -, pending, -⟩ | ⟨front, part, back, rfl, spells⟩
                · cases pending
                · exact .inr ⟨b :: front, part, back, rfl, spells⟩
          · next next_eq =>
              rcases ih found with ⟨q, part, back, pending, rfl, reads⟩ | ⟨front, part, back, rfl, spells⟩
              · cases pending
                exact .inl ⟨p, b :: part, back, rfl, rfl, .more next_eq reads⟩
              · exact .inr ⟨b :: front, part, back, rfl, spells⟩
          · exact .inr (of_opened (by simpa using found))

theorem encodeChar_ascii (ascii : b.toNat < 0x80) : encodeChar (Char.ofNat b.toNat) = [b] :=
  encodeChar_of_spells (.short (start_one ascii))

theorem mem_lossy_iff (ascii : b.toNat < 0x80) : Char.ofNat b.toNat ∈ lossy bytes ↔ b ∈ bytes := by
  constructor
  · intro found
    obtain ⟨piece, member, piece_eq⟩ := List.mem_map.1 found
    cases piece with
    | none =>
        have code_eq := congrArg Char.toNat piece_eq
        rw [toNat_ofNat (.inl (by omega))] at code_eq
        simp at code_eq
        omega
    | some c =>
        obtain rfl : c = Char.ofNat b.toNat := piece_eq
        rcases exists_spells_of_mem member with ⟨p, -, -, none_eq, -⟩ | ⟨front, part, back, rfl, spells⟩
        · cases none_eq
        · simp [← encodeChar_of_spells spells, encodeChar_ascii ascii]
  · intro member
    obtain ⟨front, back, rfl⟩ := List.append_of_mem member
    simp [lossy_append ascii]

theorem lossy_encode (text : String) : lossy (encode text) = text.toList := by
  have all_read : ((fun c => Option.getD c (Char.ofNat 0xFFFD)) ∘ some) = id := rfl
  simp [lossy, encode, pieces_encode, all_read]

theorem decodeLossy_encode (text : String) : decodeLossy (encode text) = text := by
  rw [decodeLossy, lossy_encode, String.ofList_toList]

-- A text that does not show the mark of malformed bytes is the text of no other bytes.
theorem lossy_eq_iff {text : String} (unmarked : Char.ofNat 0xFFFD ∉ text.toList) :
    lossy bytes = text.toList ↔ bytes = encode text := by
  constructor
  · intro same
    have whole : none ∉ pieces none [] bytes := fun lost =>
      unmarked (same ▸ List.mem_map.2 ⟨none, lost, rfl⟩)
    obtain ⟨chars, rfl⟩ := exists_encode whole
    have text_eq : chars.flatMap encodeChar = encode (String.ofList chars) := by
      rw [encode, String.toList_ofList]
    rw [text_eq, lossy_encode, String.toList_inj] at same
    rw [text_eq, same]
  · rintro rfl
    exact lossy_encode text

theorem encode_decodeLossy_iff :
    encode (decodeLossy bytes) = bytes ↔ (decode? bytes).isSome = true := by
  rw [Option.isSome_iff_exists]
  constructor
  · exact fun same => ⟨_, decode?_eq_some_iff.2 same.symm⟩
  · rintro ⟨text, decoded⟩
    rw [decode?_eq_some_iff] at decoded
    rw [decoded, decodeLossy_encode]

theorem lossy_suffix {ending : String} {first : Char} {rest : List Char}
    (ending_eq : ending.toList = first :: rest) (ascii : first.toNat < 0x80)
    (ends : encode ending <:+ bytes) : ending.toList <:+ lossy bytes := by
  obtain ⟨front, rfl⟩ := ends
  have byte_eq : (UInt8.ofNat first.toNat).toNat = first.toNat := toNat_ofNat_byte (by omega)
  have encode_eq : encode ending = UInt8.ofNat first.toNat :: encode (String.ofList rest) := by
    simp [encode, ending_eq, encodeChar, ascii]
  rw [encode_eq, lossy_append (by omega), byte_eq, Char.ofNat_toNat, lossy_encode,
    String.toList_ofList, ending_eq]
  exact List.suffix_append _ _

end LessonAudit.Text.Utf8
