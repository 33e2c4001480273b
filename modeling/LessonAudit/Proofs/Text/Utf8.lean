import LessonAudit.Text.Utf8
set_option autoImplicit false

namespace LessonAudit.Text.Utf8

inductive Reads : Pending → List UInt8 → Char → Prop
  | last {p : Pending} {b : UInt8} {c : Char} : p.next b.toNat = some (.inl c) → Reads p [b] c
  | more {p q : Pending} {b : UInt8} {bytes : List UInt8} {c : Char} :
      p.next b.toNat = some (.inr q) → Reads q bytes c → Reads p (b :: bytes) c

inductive Spells : List UInt8 → Char → Prop
  | short {b : UInt8} {c : Char} : start b.toNat = some (.inl c) → Spells [b] c
  | long {b : UInt8} {p : Pending} {bytes : List UInt8} {c : Char} :
      start b.toNat = some (.inr p) → Reads p bytes c → Spells (b :: bytes) c

theorem toNat_ofNat {n : Nat} (valid : n.isValidChar) : (Char.ofNat n).toNat = n := by
  rw [Char.ofNat, dif_pos valid]
  rfl

theorem start_one {b : Nat} (small : b < 0x80) : start b = some (.inl (Char.ofNat b)) :=
  if_pos small

theorem start_two {b : Nat} (low : 0xC2 ≤ b) (high : b < 0xE0) :
    start b = some (.inr ⟨1, b - 0xC0, 0x80, 0xBF⟩) := by
  unfold start
  rw [if_neg (by omega), if_neg (by omega), if_pos high]

theorem start_three {b : Nat} (low : 0xE0 ≤ b) (high : b < 0xF0) :
    start b = some (.inr ⟨2, b - 0xE0, if b = 0xE0 then 0xA0 else 0x80,
      if b = 0xED then 0x9F else 0xBF⟩) := by
  unfold start
  rw [if_neg (by omega), if_neg (by omega), if_neg (by omega)]
  by_cases first : b = 0xE0
  · simp [first]
  · by_cases surrogate : b = 0xED
    · simp [surrogate]
    · simp [first, surrogate, high]

theorem start_four {b : Nat} (low : 0xF0 ≤ b) (high : b < 0xF5) :
    start b = some (.inr ⟨3, b - 0xF0, if b = 0xF0 then 0x90 else 0x80,
      if b = 0xF4 then 0x8F else 0xBF⟩) := by
  unfold start
  rw [if_neg (by omega), if_neg (by omega), if_neg (by omega), if_neg (by omega),
    if_neg (by omega), if_neg (by omega)]
  by_cases first : b = 0xF0
  · simp [first]
  · by_cases final : b = 0xF4
    · simp [final]
    · rw [if_neg first, if_pos (by omega)]
      simp [first, final]

theorem start_none {b : Nat} (out : 0x80 ≤ b ∧ b < 0xC2 ∨ 0xF5 ≤ b) : start b = none := by
  unfold start
  rcases out with ⟨low, high⟩ | high
  · rw [if_neg (by omega), if_pos high]
  · rw [if_neg (by omega), if_neg (by omega), if_neg (by omega), if_neg (by omega),
      if_neg (by omega), if_neg (by omega), if_neg (by omega), if_neg (by omega),
      if_neg (by omega)]

theorem next_last {value low high b : Nat} {r : Char ⊕ Pending} :
    Pending.next ⟨1, value, low, high⟩ b = some r ↔
      (low ≤ b ∧ b ≤ high) ∧ .inl (Char.ofNat (value * 64 + (b - 0x80))) = r := by
  simp only [Pending.next, Nat.le_refl, if_true, Option.ite_none_right_eq_some,
    Option.some.injEq]

theorem next_more {count value low high b : Nat} {r : Char ⊕ Pending} :
    Pending.next ⟨count + 2, value, low, high⟩ b = some r ↔
      (low ≤ b ∧ b ≤ high) ∧
        .inr ⟨count + 1, value * 64 + (b - 0x80), 0x80, 0xBF⟩ = r := by
  have several : ¬ count + 2 ≤ 1 := by omega
  simp only [Pending.next, several, if_false, Option.ite_none_right_eq_some,
    Option.some.injEq, Nat.add_succ_sub_one]

theorem reads_last {value low high : Nat} {bytes : List UInt8} {c : Char} :
    Reads ⟨1, value, low, high⟩ bytes c ↔
      ∃ x, bytes = [x] ∧ (low ≤ x.toNat ∧ x.toNat ≤ high) ∧
        c = Char.ofNat (value * 64 + (x.toNat - 0x80)) := by
  constructor
  · intro reads
    cases reads with
    | last found =>
        obtain ⟨bounds, same⟩ := next_last.1 found
        exact ⟨_, rfl, bounds, (Sum.inl.inj same).symm⟩
    | more found rest => exact absurd (next_last.1 found).2 Sum.inl_ne_inr
  · rintro ⟨x, rfl, bounds, same⟩
    exact .last (next_last.2 ⟨bounds, congrArg Sum.inl same.symm⟩)

theorem reads_more {count value low high : Nat} {bytes : List UInt8} {c : Char} :
    Reads ⟨count + 2, value, low, high⟩ bytes c ↔
      ∃ x rest, bytes = x :: rest ∧ (low ≤ x.toNat ∧ x.toNat ≤ high) ∧
        Reads ⟨count + 1, value * 64 + (x.toNat - 0x80), 0x80, 0xBF⟩ rest c := by
  constructor
  · intro reads
    cases reads with
    | last found => exact absurd (next_more.1 found).2 Sum.inr_ne_inl
    | more found rest =>
        obtain ⟨bounds, same⟩ := next_more.1 found
        cases same
        exact ⟨_, _, rfl, bounds, rest⟩
  · rintro ⟨x, rest, rfl, bounds, reads⟩
    exact .more (next_more.2 ⟨bounds, rfl⟩) reads

theorem toNat_ofNat_byte {n : Nat} (small : n < 256) : (UInt8.ofNat n).toNat = n := by
  rw [UInt8.toNat_ofNat', Nat.mod_eq_of_lt small]

theorem ofNat_eq_byte {n : Nat} {b : UInt8} (same : n = b.toNat) : UInt8.ofNat n = b := by
  rw [same, UInt8.ofNat_toNat]

theorem toNat_bounds (c : Char) : c.toNat < 0xD800 ∨ 0xDFFF < c.toNat ∧ c.toNat < 0x110000 :=
  c.valid

theorem spells_encodeChar (c : Char) : Spells (encodeChar c) c := by
  have bounds := toNat_bounds c
  have value_eq {n : Nat} (same : n = c.toNat) : c = Char.ofNat n := by
    rw [same, Char.ofNat_toNat]
  unfold encodeChar
  dsimp only
  generalize c.toNat = n at bounds value_eq
  split
  · next small =>
      rw [value_eq rfl]
      exact .short (by rw [toNat_ofNat_byte (by omega), start_one small])
  · split
    · next large small =>
        have first := toNat_ofNat_byte (show 0xC0 + n / 64 < 256 by omega)
        have second := toNat_ofNat_byte (show 0x80 + n % 64 < 256 by omega)
        refine .long (by rw [first, start_two (by omega) (by omega)])
          (reads_last.2 ⟨_, rfl, ?_, value_eq ?_⟩) <;> omega
    · split
      · next large small =>
          have first := toNat_ofNat_byte (show 0xE0 + n / 4096 < 256 by omega)
          have second := toNat_ofNat_byte (show 0x80 + n / 64 % 64 < 256 by omega)
          have third := toNat_ofNat_byte (show 0x80 + n % 64 < 256 by omega)
          refine .long (by rw [first, start_three (by omega) (by omega)])
            (reads_more.2 ⟨_, _, rfl, ?_, reads_last.2 ⟨_, rfl, ?_, value_eq ?_⟩⟩)
          · split <;> split <;> omega
          · omega
          · omega
      · next large =>
          have first := toNat_ofNat_byte (show 0xF0 + n / 262144 < 256 by omega)
          have second := toNat_ofNat_byte (show 0x80 + n / 4096 % 64 < 256 by omega)
          have third := toNat_ofNat_byte (show 0x80 + n / 64 % 64 < 256 by omega)
          have fourth := toNat_ofNat_byte (show 0x80 + n % 64 < 256 by omega)
          refine .long (by rw [first, start_four (by omega) (by omega)])
            (reads_more.2 ⟨_, _, rfl, ?_, reads_more.2 ⟨_, _, rfl, ?_,
              reads_last.2 ⟨_, rfl, ?_, value_eq ?_⟩⟩⟩)
          · split <;> split <;> omega
          · omega
          · omega
          · omega

theorem encodeChar_of_spells {bytes : List UInt8} {c : Char} (spells : Spells bytes c) :
    encodeChar c = bytes := by
  have ranges (b : Nat) : b < 0x80 ∨ (0x80 ≤ b ∧ b < 0xC2 ∨ 0xF5 ≤ b) ∨ (0xC2 ≤ b ∧ b < 0xE0) ∨
      (0xE0 ≤ b ∧ b < 0xF0) ∨ 0xF0 ≤ b ∧ b < 0xF5 := by omega
  unfold encodeChar
  dsimp only
  cases spells with
  | @short b c found =>
      rcases ranges b.toNat with small | out | ⟨low, high⟩ | ⟨low, high⟩ | ⟨low, high⟩
      · rw [start_one small] at found
        cases found
        rw [toNat_ofNat (.inl (by omega)), if_pos small, UInt8.ofNat_toNat]
      · simp [start_none out] at found
      · simp [start_two low high] at found
      · simp [start_three low high] at found
      · simp [start_four low high] at found
  | @long b p rest c found reads =>
      rcases ranges b.toNat with small | out | ⟨low, high⟩ | ⟨low, high⟩ | ⟨low, high⟩
      · simp [start_one small] at found
      · simp [start_none out] at found
      · rw [start_two low high] at found
        cases found
        obtain ⟨x, rfl, x_bounds, same⟩ := reads_last.1 reads
        rw [same, toNat_ofNat (.inl (by omega)), if_neg (by omega), if_pos (by omega),
          ofNat_eq_byte (b := b) (by omega), ofNat_eq_byte (b := x) (by omega)]
      · rw [start_three low high] at found
        cases found
        obtain ⟨x, rest, rfl, x_bounds, reads⟩ := reads_more.1 reads
        obtain ⟨y, rfl, y_bounds, same⟩ := reads_last.1 reads
        -- the second byte keeps out characters with a shorter form, and surrogates
        have x_low : 0x80 ≤ x.toNat ∧ (b.toNat = 0xE0 → 0xA0 ≤ x.toNat) := by
          split at x_bounds <;> omega
        have x_high : x.toNat ≤ 0xBF ∧ (b.toNat = 0xED → x.toNat ≤ 0x9F) := by
          split at x_bounds <;> split at x_bounds <;> omega
        have valid : Nat.isValidChar
            (((b.toNat - 0xE0) * 64 + (x.toNat - 0x80)) * 64 + (y.toNat - 0x80)) := by
          unfold Nat.isValidChar
          omega
        rw [same, toNat_ofNat valid, if_neg (by omega), if_neg (by omega), if_pos (by omega),
          ofNat_eq_byte (b := b) (by omega), ofNat_eq_byte (b := x) (by omega),
          ofNat_eq_byte (b := y) (by omega)]
      · rw [start_four low high] at found
        cases found
        obtain ⟨x, rest, rfl, x_bounds, reads⟩ := reads_more.1 reads
        obtain ⟨y, rest, rfl, y_bounds, reads⟩ := reads_more.1 reads
        obtain ⟨z, rfl, z_bounds, same⟩ := reads_last.1 reads
        -- it also keeps out what lies behind the last character
        have x_low : 0x80 ≤ x.toNat ∧ (b.toNat = 0xF0 → 0x90 ≤ x.toNat) := by
          split at x_bounds <;> omega
        have x_high : x.toNat ≤ 0xBF ∧ (b.toNat = 0xF4 → x.toNat ≤ 0x8F) := by
          split at x_bounds <;> split at x_bounds <;> omega
        have valid : Nat.isValidChar
            ((((b.toNat - 0xF0) * 64 + (x.toNat - 0x80)) * 64 + (y.toNat - 0x80)) * 64 +
              (z.toNat - 0x80)) := by
          unfold Nat.isValidChar
          omega
        rw [same, toNat_ofNat valid, if_neg (by omega), if_neg (by omega), if_neg (by omega),
          ofNat_eq_byte (b := b) (by omega), ofNat_eq_byte (b := x) (by omega),
          ofNat_eq_byte (b := y) (by omega), ofNat_eq_byte (b := z) (by omega)]

theorem none_mem_pieces {state : Option Pending} {done : List (Option Char)} {bytes : List UInt8}
    (lost : none ∈ done) : none ∈ pieces state done bytes := by
  fun_induction pieces state done bytes <;> simp_all

theorem pieces_of_reads {p : Pending} {front : List UInt8} {c : Char} (reads : Reads p front c)
    (done : List (Option Char)) (rest : List UInt8) :
    pieces (some p) done (front ++ rest) = pieces none (some c :: done) rest := by
  induction reads with
  | last found => simp [pieces, found]
  | more found _ ih => simp [pieces, found, ih]

theorem pieces_of_spells {front : List UInt8} {c : Char} (spells : Spells front c)
    (done : List (Option Char)) (rest : List UInt8) :
    pieces none done (front ++ rest) = pieces none (some c :: done) rest := by
  cases spells with
  | short found => simp [pieces, found]
  | long found reads => simp [pieces, found, pieces_of_reads reads]

theorem pieces_encode (chars : List Char) (done : List (Option Char)) :
    pieces none done (chars.flatMap encodeChar) = done.reverse ++ chars.map some := by
  induction chars generalizing done with
  | nil => simp [pieces]
  | cons c more ih => simp [pieces_of_spells (spells_encodeChar c), ih]

theorem exists_reads {p : Pending} {done : List (Option Char)} {bytes : List UInt8}
    (whole : none ∉ pieces (some p) done bytes) :
    ∃ front c rest, bytes = front ++ rest ∧ Reads p front c := by
  induction bytes generalizing p with
  | nil => simp [pieces] at whole
  | cons b bytes ih =>
      cases found : p.next b.toNat with
      | none =>
          refine absurd ?_ whole
          simp only [pieces, found]
          split <;> exact none_mem_pieces (by simp)
      | some result =>
          cases result with
          | inl c => exact ⟨[b], c, bytes, rfl, .last found⟩
          | inr q =>
              simp only [pieces, found] at whole
              obtain ⟨front, c, rest, rfl, reads⟩ := ih whole
              exact ⟨b :: front, c, rest, rfl, .more found reads⟩

theorem exists_spells {done : List (Option Char)} {b : UInt8} {bytes : List UInt8}
    (whole : none ∉ pieces none done (b :: bytes)) :
    ∃ front c rest, b :: bytes = front ++ rest ∧ front ≠ [] ∧ Spells front c := by
  cases found : start b.toNat with
  | none =>
      refine absurd ?_ whole
      simp only [pieces, found]
      exact none_mem_pieces (by simp)
  | some result =>
      cases result with
      | inl c => exact ⟨[b], c, bytes, rfl, by simp, .short found⟩
      | inr p =>
          simp only [pieces, found] at whole
          obtain ⟨front, c, rest, rfl, reads⟩ := exists_reads whole
          exact ⟨b :: front, c, rest, rfl, by simp, .long found reads⟩

theorem exists_encode {done : List (Option Char)} {bytes : List UInt8}
    (whole : none ∉ pieces none done bytes) :
    ∃ chars : List Char, bytes = chars.flatMap encodeChar := by
  match bytes with
  | [] => exact ⟨[], rfl⟩
  | b :: more =>
      obtain ⟨front, c, rest, cut, front_some, spells⟩ := exists_spells whole
      rw [cut, pieces_of_spells spells] at whole
      have shorter : rest.length < (b :: more).length := by
        have := List.length_pos_iff.2 front_some
        rw [cut, List.length_append]
        omega
      obtain ⟨chars, rfl⟩ := exists_encode whole
      exact ⟨c :: chars, by rw [cut, List.flatMap_cons, encodeChar_of_spells spells]⟩
termination_by bytes.length
decreasing_by exact shorter

theorem mapM_map_some (chars : List Char) : (chars.map some).mapM id = some chars := by
  induction chars with
  | nil => rfl
  | cons c more ih => simp_all

theorem none_not_mem {found : List (Option Char)} {chars : List Char}
    (all : found.mapM id = some chars) : none ∉ found := by
  induction found generalizing chars with
  | nil => simp
  | cons first more ih =>
      cases first with
      | none => simp at all
      | some c =>
          cases rest : more.mapM id with
          | none => simp [rest] at all
          | some chars => simpa using ih rest

theorem decode?_eq_some_iff {bytes : List UInt8} {text : String} :
    decode? bytes = some text ↔ bytes = encode text := by
  have decode_chars (chars : List Char) :
      decode? (chars.flatMap encodeChar) = some (String.ofList chars) := by
    rw [decode?, pieces_encode, List.reverse_nil, List.nil_append, mapM_map_some]
    rfl
  constructor
  · intro decoded
    obtain ⟨chars, all, -⟩ := Option.map_eq_some_iff.1 decoded
    obtain ⟨written, rfl⟩ := exists_encode (none_not_mem all)
    rw [decode_chars] at decoded
    rw [encode, ← Option.some.inj decoded, String.toList_ofList]
  · rintro rfl
    rw [encode, decode_chars, String.ofList_toList]

end LessonAudit.Text.Utf8
