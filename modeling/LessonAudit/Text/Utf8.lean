set_option autoImplicit false

namespace LessonAudit.Text.Utf8

def encodeChar (c : Char) : List UInt8 :=
  let n := c.toNat
  if n < 0x80 then [UInt8.ofNat n]
  else if n < 0x800 then [UInt8.ofNat (0xC0 + n / 64), UInt8.ofNat (0x80 + n % 64)]
  else if n < 0x10000 then
    [UInt8.ofNat (0xE0 + n / 4096), UInt8.ofNat (0x80 + n / 64 % 64), UInt8.ofNat (0x80 + n % 64)]
  else
    [UInt8.ofNat (0xF0 + n / 262144), UInt8.ofNat (0x80 + n / 4096 % 64),
      UInt8.ofNat (0x80 + n / 64 % 64), UInt8.ofNat (0x80 + n % 64)]

def encode (s : String) : List UInt8 :=
  s.toList.flatMap encodeChar

/-- A character in the making: `count` bytes are to come, the next one from `low` to `high`; the
bytes so far give `value`. -/
structure Pending where
  count : Nat
  value : Nat
  low : Nat
  high : Nat

/-- What a first byte starts: a whole character, a longer one, or nothing. The second byte of some
characters is limited, so that each has one form and no surrogate has any. -/
def start (byte : Nat) : Option (Char ⊕ Pending) :=
  if byte < 0x80 then some (.inl (Char.ofNat byte))
  else if byte < 0xC2 then none
  else if byte < 0xE0 then some (.inr ⟨1, byte - 0xC0, 0x80, 0xBF⟩)
  else if byte = 0xE0 then some (.inr ⟨2, 0, 0xA0, 0xBF⟩)
  else if byte = 0xED then some (.inr ⟨2, 13, 0x80, 0x9F⟩)
  else if byte < 0xF0 then some (.inr ⟨2, byte - 0xE0, 0x80, 0xBF⟩)
  else if byte = 0xF0 then some (.inr ⟨3, 0, 0x90, 0xBF⟩)
  else if byte < 0xF4 then some (.inr ⟨3, byte - 0xF0, 0x80, 0xBF⟩)
  else if byte = 0xF4 then some (.inr ⟨3, 4, 0x80, 0x8F⟩)
  else none

def Pending.next (p : Pending) (byte : Nat) : Option (Char ⊕ Pending) :=
  if p.low ≤ byte ∧ byte ≤ p.high then
    let value := p.value * 64 + (byte - 0x80)
    if p.count ≤ 1 then some (.inl (Char.ofNat value))
    else some (.inr ⟨p.count - 1, value, 0x80, 0xBF⟩)
  else none

/-- The characters of the bytes, `none` in place of each longest piece that starts a character and
is not finished and of each byte that starts none. `done` holds the characters before, last
first. -/
def pieces : Option Pending → List (Option Char) → List UInt8 → List (Option Char)
  | none, done, [] => done.reverse
  | some _, done, [] => (none :: done).reverse
  | none, done, b :: bs =>
      match start b.toNat with
      | some (.inl c) => pieces none (some c :: done) bs
      | some (.inr p) => pieces (some p) done bs
      | none => pieces none (none :: done) bs
  | some p, done, b :: bs =>
      match p.next b.toNat with
      | some (.inl c) => pieces none (some c :: done) bs
      | some (.inr q) => pieces (some q) done bs
      | none =>
          match start b.toNat with
          | some (.inl c) => pieces none (some c :: none :: done) bs
          | some (.inr q) => pieces (some q) (none :: done) bs
          | none => pieces none (none :: none :: done) bs

def decode? (bytes : List UInt8) : Option String :=
  ((pieces none [] bytes).mapM id).map String.ofList

def lossy (bytes : List UInt8) : List Char :=
  (pieces none [] bytes).map fun c => c.getD (Char.ofNat 0xFFFD)

def decodeLossy (bytes : List UInt8) : String :=
  String.ofList (lossy bytes)

end LessonAudit.Text.Utf8
