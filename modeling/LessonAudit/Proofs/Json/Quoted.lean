import LessonAudit.Proofs.Json.Grammar
set_option autoImplicit false

namespace LessonAudit.Json

namespace Reader

variable {c : Char} {n : Nat} {first : Option Nat} {done cs rest digits piece : List Char}
  {s : String}

theorem hasFourBytes_append (four : digits.length = 4) : hasFourBytes (digits ++ rest) = true := by
  match digits, four with
  | [a, b, c, d], _ =>
      have bytes := a.utf8Size_pos
      have bytes' := b.utf8Size_pos
      have bytes'' := c.utf8Size_pos
      have bytes''' := d.utf8Size_pos
      have enough : 4 ≤ 0 + a.utf8Size + b.utf8Size + c.utf8Size + d.utf8Size := by omega
      exact decide_eq_true enough

theorem eq_ofNat {code : Nat} (same : c.toNat = code) : c = Char.ofNat code := by
  rw [← same, Char.ofNat_toNat]

theorem isHexDigit_of_hexValue (found : hexValue c = some n) : IsHexDigit c n := by
  have decimals : ∀ k < 10, IsHexDigit (Char.ofNat (k + 48)) k := by
    unfold IsHexDigit
    decide
  have letters : ∀ k < 6, IsHexDigit (Char.ofNat (k + 97)) (k + 10) ∧
      IsHexDigit (Char.ofNat (k + 65)) (k + 10) := by
    unfold IsHexDigit
    decide
  unfold hexValue at found
  split_ifs at found with decimal lower upper
  · have bounds : 48 ≤ c.toNat ∧ c.toNat ≤ 57 := decimal
    have value_eq : c.toNat - 48 = n := Option.some.inj found
    rw [eq_ofNat (by omega : c.toNat = n + 48)]
    exact decimals n (by omega)
  · have bounds : 97 ≤ c.toNat ∧ c.toNat ≤ 102 := lower
    have value_eq : c.toNat - 87 = n := Option.some.inj found
    obtain ⟨k, rfl⟩ : ∃ k, n = k + 10 := ⟨n - 10, by omega⟩
    rw [eq_ofNat (by omega : c.toNat = k + 97)]
    exact (letters k (by omega)).1
  · have bounds : 65 ≤ c.toNat ∧ c.toNat ≤ 70 := upper
    have value_eq : c.toNat - 55 = n := Option.some.inj found
    obtain ⟨k, rfl⟩ : ∃ k, n = k + 10 := ⟨n - 10, by omega⟩
    rw [eq_ofNat (by omega : c.toNat = k + 65)]
    exact (letters k (by omega)).2

theorem hexValue_eq_some_iff : hexValue c = some n ↔ IsHexDigit c n := by
  refine ⟨isHexDigit_of_hexValue, ?_⟩
  have lower : ∀ p ∈ "0123456789abcdef".toList.zipIdx, hexValue p.1 = some p.2 := by decide
  have upper : ∀ p ∈ "0123456789ABCDEF".toList.zipIdx, hexValue p.1 = some p.2 := by decide
  rintro (found | found)
  · exact lower (c, n) (List.mem_zipIdx_iff_getElem?.2 found)
  · exact upper (c, n) (List.mem_zipIdx_iff_getElem?.2 found)

theorem simpleEscape_eq_some_iff {letter : Char} :
    simpleEscape letter = some c ↔ (letter, c) ∈ escapes := by
  unfold simpleEscape escapes
  split <;> simp_all [eq_comm]

@[simp]
theorem readText_nil (place : Place) : readText place done [] = .error .truncated := rfl

theorem readText_plain_cons : readText .plain done (c :: cs) =
    if c = '"' then .ok (String.ofList done.reverse, cs)
    else if c = '\\' then readText .escape done cs
    else if c.toNat < 32 then .error .malformed
    else readText .plain (c :: done) cs := rfl

theorem readText_escape_cons : readText .escape done (c :: cs) =
    if c = 'u' then
      if hasFourBytes cs then readText (.digits none 4 0) done cs else .error .truncated
    else
      match simpleEscape c with
      | some x => readText .plain (x :: done) cs
      | none => .error .malformed := rfl

theorem readText_pairMark_cons {high : Nat} : readText (.pairMark high) done (c :: cs) =
    if c = '\\' then readText (.pairLetter high) done cs else .error .malformed := rfl

theorem readText_pairLetter_cons {high : Nat} : readText (.pairLetter high) done (c :: cs) =
    if c = 'u' then
      if hasFourBytes cs then readText (.digits (some high) 4 0) done cs else .error .truncated
    else .error .malformed := rfl

def afterUnit (first : Option Nat) (unit : Nat) (done cs : List Char) :
    Except Fault (String × List Char) :=
  match first with
  | none =>
      if unit < 0xD800 ∨ 0xDFFF < unit then readText .plain (Char.ofNat unit :: done) cs
      else if unit < 0xDC00 then readText (.pairMark unit) done cs
      else .error .malformed
  | some high =>
      if 0xDC00 ≤ unit ∧ unit ≤ 0xDFFF then
        readText .plain (Char.ofNat (0x10000 + (high - 0xD800) * 0x400 + (unit - 0xDC00)) :: done) cs
      else .error .malformed

theorem readText_digits_cons {count value : Nat} :
    readText (.digits first count value) done (c :: cs) =
      match hexValue c with
      | none => .error .malformed
      | some d =>
          if count > 1 then readText (.digits first (count - 1) (16 * value + d)) done cs
          else afterUnit first (16 * value + d) done cs := by
  cases first <;> rfl

theorem readText_no_digit {count value : Nat} (other : hexValue c = none) :
    readText (.digits first count value) done (c :: cs) = .error .malformed := by
  rw [readText_digits_cons, other]

theorem readText_next_digit {d count value : Nat} (digit : hexValue c = some d) :
    readText (.digits first (count + 2) value) done (c :: cs) =
      readText (.digits first (count + 1) (16 * value + d)) done cs := by
  simp [readText_digits_cons, digit]

theorem readText_last_digit {d value : Nat} (digit : hexValue c = some d) :
    readText (.digits first 1 value) done (c :: cs) = afterUnit first (16 * value + d) done cs := by
  simp [readText_digits_cons, digit]

theorem readText_unit (written : SpellsUnit n digits) :
    readText (.digits first 4 0) done (digits ++ rest) = afterUnit first n done rest := by
  cases written with
  | @intro a b c d i j k l is_i is_j is_k is_l =>
      simp only [List.cons_append, List.nil_append]
      rw [readText_next_digit (hexValue_eq_some_iff.2 is_i),
        readText_next_digit (hexValue_eq_some_iff.2 is_j),
        readText_next_digit (hexValue_eq_some_iff.2 is_k),
        readText_last_digit (hexValue_eq_some_iff.2 is_l)]
      simp

theorem SpellsUnit.length_eq (written : SpellsUnit n digits) : digits.length = 4 := by
  cases written
  rfl

theorem readText_piece (written : SpellsChar c piece) :
    readText .plain done (piece ++ rest) = readText .plain (c :: done) rest := by
  cases written with
  | plain no_quote no_escape no_control =>
      simp [readText_plain_cons, no_quote, no_escape, Nat.not_lt.2 no_control]
  | @escape letter _ known =>
      rw [← simpleEscape_eq_some_iff] at known
      have no_unit : letter ≠ 'u' := by
        rintro rfl
        simp [simpleEscape] at known
      simp [readText_plain_cons, readText_escape_cons, no_unit, known]
  | @unit n digits written single =>
      simp [readText_plain_cons, readText_escape_cons,
        hasFourBytes_append (SpellsUnit.length_eq written), readText_unit written, afterUnit, single]
  | @pair high low digits more written is_high written_low is_low =>
      have not_single : ¬ (high < 0xD800 ∨ 0xDFFF < high) := by omega
      simp [readText_plain_cons, readText_escape_cons, readText_pairMark_cons,
        readText_pairLetter_cons,
        hasFourBytes_append (SpellsUnit.length_eq written), readText_unit written,
        hasFourBytes_append (SpellsUnit.length_eq written_low), readText_unit written_low,
        afterUnit, not_single, is_high.2, is_low]

theorem exists_cons_of_spells (written : SpellsChar c piece) : ∃ head tail, piece = head :: tail := by
  cases written <;> exact ⟨_, _, rfl⟩

theorem readText_of_spells {chars text : List Char} (written : SpellsChars chars text) :
    readText .plain done (text ++ '"' :: rest) =
      .ok (String.ofList (done.reverse ++ chars), rest) := by
  induction written generalizing done with
  | nil => simp [readText_plain_cons]
  | cons first later ih => rw [List.append_assoc, readText_piece first, ih]; simp

variable {result : String × List Char}

theorem digit_of_readText {count value : Nat}
    (reads : readText (.digits first (count + 2) value) done cs = .ok result) :
    ∃ c d tail, cs = c :: tail ∧ IsHexDigit c d ∧
      readText (.digits first (count + 1) (16 * value + d)) done tail = .ok result := by
  cases cs with
  | nil => simp at reads
  | cons c tail =>
      cases digit : hexValue c with
      | none => simp [readText_no_digit digit] at reads
      | some d => exact ⟨c, d, tail, rfl, hexValue_eq_some_iff.1 digit, readText_next_digit digit ▸ reads⟩

theorem last_digit_of_readText {value : Nat}
    (reads : readText (.digits first 1 value) done cs = .ok result) :
    ∃ c d tail, cs = c :: tail ∧ IsHexDigit c d ∧
      afterUnit first (16 * value + d) done tail = .ok result := by
  cases cs with
  | nil => simp at reads
  | cons c tail =>
      cases digit : hexValue c with
      | none => simp [readText_no_digit digit] at reads
      | some d => exact ⟨c, d, tail, rfl, hexValue_eq_some_iff.1 digit, readText_last_digit digit ▸ reads⟩

theorem unit_of_readText (reads : readText (.digits first 4 0) done cs = .ok result) :
    ∃ n digits tail, cs = digits ++ tail ∧ SpellsUnit n digits ∧
      afterUnit first n done tail = .ok result := by
  obtain ⟨a, i, cs, rfl, is_i, reads⟩ := digit_of_readText reads
  obtain ⟨b, j, cs, rfl, is_j, reads⟩ := digit_of_readText reads
  obtain ⟨c, k, cs, rfl, is_k, reads⟩ := digit_of_readText reads
  obtain ⟨d, l, cs, rfl, is_l, reads⟩ := last_digit_of_readText reads
  exact ⟨_, _, cs, rfl, .intro is_i is_j is_k is_l, by simpa using reads⟩

theorem low_of_readText {high : Nat} (is_high : 0xD800 ≤ high ∧ high < 0xDC00) {digits : List Char}
    (written : SpellsUnit high digits)
    (reads : readText (.pairMark high) done cs = .ok result) :
    ∃ c piece tail, '\\' :: 'u' :: (digits ++ cs) = piece ++ tail ∧ SpellsChar c piece ∧
      readText .plain (c :: done) tail = .ok result := by
  match cs with
  | [] => simp at reads
  | [mark] =>
      rw [readText_pairMark_cons] at reads
      split at reads <;> simp at reads
  | mark :: letter :: cs =>
      rw [readText_pairMark_cons, readText_pairLetter_cons] at reads
      split at reads
      · split at reads
        · split at reads
          · obtain ⟨low, more, tail, rfl, written_low, reads⟩ := unit_of_readText reads
            simp only [afterUnit] at reads
            split at reads
            · next is_mark is_letter _ _ is_low =>
                subst is_mark is_letter
                exact ⟨_, _, tail, by simp, .pair written is_high written_low is_low, reads⟩
            · simp at reads
          · simp at reads
        · simp at reads
      · simp at reads

theorem escape_of_readText (reads : readText .escape done cs = .ok result) :
    ∃ c piece tail, '\\' :: cs = piece ++ tail ∧ SpellsChar c piece ∧
      readText .plain (c :: done) tail = .ok result := by
  cases cs with
  | nil => simp at reads
  | cons letter cs =>
      rw [readText_escape_cons] at reads
      split at reads
      · next is_unit =>
          subst is_unit
          split at reads
          · obtain ⟨n, digits, tail, rfl, written, reads⟩ := unit_of_readText reads
            simp only [afterUnit] at reads
            split at reads
            · next single => exact ⟨_, _, tail, rfl, .unit written single, reads⟩
            · split at reads
              · exact low_of_readText (by omega) written reads
              · simp at reads
          · simp at reads
      · split at reads
        · next known => exact ⟨_, ['\\', letter], cs, rfl, .escape (simpleEscape_eq_some_iff.1 known), reads⟩
        · simp at reads

theorem step_of_readText (reads : readText .plain done cs = .ok result) :
    cs = '"' :: result.2 ∧ result.1 = String.ofList done.reverse ∨
      ∃ c piece tail, cs = piece ++ tail ∧ SpellsChar c piece ∧
        readText .plain (c :: done) tail = .ok result := by
  cases cs with
  | nil => simp at reads
  | cons c cs =>
      rw [readText_plain_cons] at reads
      split at reads
      · next is_quote =>
          cases reads
          exact .inl ⟨by rw [is_quote], rfl⟩
      · split at reads
        · next is_escape =>
            subst is_escape
            exact .inr (escape_of_readText reads)
        · split at reads
          · simp at reads
          · next no_quote no_escape no_control =>
              exact .inr ⟨c, [c], cs, rfl, .plain no_quote no_escape (by omega), reads⟩

theorem spells_of_readText (reads : readText .plain done cs = .ok (s, rest)) :
    ∃ chars text, SpellsChars chars text ∧ cs = text ++ '"' :: rest ∧
      s.toList = done.reverse ++ chars := by
  induction size_eq : cs.length using Nat.strongRecOn generalizing cs done with
  | _ size ih =>
      rcases step_of_readText reads with ⟨cs_eq, s_eq⟩ | ⟨c, piece, tail, cs_eq, written, later⟩
      · subst s_eq
        exact ⟨[], [], .nil, cs_eq, by simp⟩
      · have shorter : tail.length < size := by
          obtain ⟨head, others, rfl⟩ := exists_cons_of_spells written
          simp only [← size_eq, cs_eq, List.length_append, List.length_cons]
          omega
        obtain ⟨chars, text, written_later, tail_eq, s_eq⟩ := ih _ shorter later rfl
        exact ⟨c :: chars, piece ++ text, .cons written written_later, by simp [cs_eq, tail_eq],
          by simpa using s_eq⟩

theorem readText_iff : readText .plain [] cs = .ok (s, rest) ↔
    ∃ text, SpellsChars s.toList text ∧ cs = text ++ '"' :: rest := by
  constructor
  · intro reads
    obtain ⟨chars, text, written, cs_eq, s_eq⟩ := spells_of_readText reads
    exact ⟨text, by simpa [s_eq] using written, cs_eq⟩
  · rintro ⟨text, written, rfl⟩
    simp [readText_of_spells written]

end Reader

end LessonAudit.Json
