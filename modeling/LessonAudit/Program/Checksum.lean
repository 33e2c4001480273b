import LessonAudit.Program.Octets
set_option autoImplicit false

namespace LessonAudit.Program.Checksum

def octetsOf (count n : Nat) : List Nat :=
  (List.range count).map fun i => n / Nat.pow 256 (count - 1 - i) % 256

def ofOctets (octets : List Nat) : Nat :=
  octets.foldl (fun n b => 256 * n + b) 0

def limit (width : Nat) : Nat :=
  Nat.pow 2 width

def rotate (width count word : Nat) : Nat :=
  (word >>> count ||| word <<< (width - count)) % limit width

def complement (width word : Nat) : Nat :=
  limit width - 1 - word

def filled (size lengthSize : Nat) (lowFirst : Bool) (message : List Nat) : List Nat :=
  let used := message.length + 1 + lengthSize
  let zeros := (size - used % size) % size
  let length := octetsOf lengthSize (8 * message.length)
  message ++ 0x80 :: List.replicate zeros 0 ++ (if lowFirst then length.reverse else length)

def grouped (size : Nat) : Nat → List Nat → List (List Nat)
  | 0, _ => []
  | fuel + 1, numbers =>
      if numbers.isEmpty then [] else numbers.take size :: grouped size fuel (numbers.drop size)

def blocksOf (width : Nat) (lowFirst : Bool) (message : List Nat) : List (Array Nat) :=
  let octets := width / 8
  let all := filled (16 * octets) (2 * octets) lowFirst message
  let words := (grouped octets all.length all).map fun word =>
    ofOctets (if lowFirst then word.reverse else word)
  (grouped 16 words.length words).map List.toArray

def addStates (width : Nat) (a b : List Nat) : List Nat :=
  (a.zip b).map fun (x, y) => (x + y) % limit width

def isPrime (n : Nat) : Bool :=
  decide (1 < n) && (List.range n).all fun d => d < 2 || n % d != 0

def primes (count : Nat) : List Nat :=
  ((List.range 500).filter isPrime).take count

def root (degree n : Nat) : Nat → Nat → Nat
  | 0, found => found
  | bits + 1, found =>
      let next := found + Nat.pow 2 bits
      root degree n bits (if Nat.pow next degree ≤ n then next else found)

def rootFraction (degree width prime : Nat) : Nat :=
  root degree (prime * Nat.pow 2 (degree * width)) (width + 8) 0 % limit width

abbrev Moves := Nat × Nat × Nat

structure Family where
  width : Nat
  rounds : Nat
  firstSum : Moves
  secondSum : Moves
  firstStep : Moves
  secondStep : Moves

namespace Family

def short : Family :=
  ⟨32, 64, (2, 13, 22), (6, 11, 25), (7, 18, 3), (17, 19, 10)⟩

def long : Family :=
  ⟨64, 80, (28, 34, 39), (14, 18, 41), (1, 8, 7), (19, 61, 6)⟩

def sum (f : Family) (m : Moves) (x : Nat) : Nat :=
  rotate f.width m.1 x ^^^ rotate f.width m.2.1 x ^^^ rotate f.width m.2.2 x

def step (f : Family) (m : Moves) (x : Nat) : Nat :=
  rotate f.width m.1 x ^^^ rotate f.width m.2.1 x ^^^ (x >>> m.2.2)

def constants (f : Family) : List Nat :=
  (primes f.rounds).map (rootFraction 3 f.width)

def schedule (f : Family) (block : Array Nat) : List Nat :=
  let words := (List.range (f.rounds - 16)).foldl
    (fun words i =>
      let word (n : Nat) : Nat := words.getD n 0
      words.push ((word i + f.step f.firstStep (word (i + 1)) + word (i + 9) +
        f.step f.secondStep (word (i + 14))) % limit f.width))
    block
  words.toList

def round (f : Family) (state : List Nat) (constant word : Nat) : List Nat :=
  match state with
  | [a, b, c, d, e, g, h, i] =>
      let choice := (e &&& g) ^^^ (complement f.width e &&& h)
      let majority := (a &&& b) ^^^ (a &&& c) ^^^ (b &&& c)
      let first := i + f.sum f.secondSum e + choice + constant + word
      let second := f.sum f.firstSum a + majority
      [(first + second) % limit f.width, a, b, c, (d + first) % limit f.width, e, g, h]
  | other => other

def digest (f : Family) (initial : List Nat) (message : List Nat) : List Nat :=
  let constants := f.constants
  let final := (blocksOf f.width false message).foldl
    (fun state block =>
      let mixed := (constants.zip (f.schedule block)).foldl
        (fun state (constant, word) => f.round state constant word) state
      addStates f.width state mixed)
    initial
  final.flatMap (octetsOf (f.width / 8))

end Family

def fiveRound (state : List Nat) (n word : Nat) : List Nat :=
  match state with
  | [a, b, c, d, e] =>
      let (mixed, constant) :=
        if n < 20 then ((b &&& c) ||| (complement 32 b &&& d), 0x5a827999)
        else if n < 40 then (b ^^^ c ^^^ d, 0x6ed9eba1)
        else if n < 60 then ((b &&& c) ||| (b &&& d) ||| (c &&& d), 0x8f1bbcdc)
        else (b ^^^ c ^^^ d, 0xca62c1d6)
      let next := (rotate 32 27 a + mixed + e + constant + word) % limit 32
      [next, a, rotate 32 2 b, c, d]
  | other => other

def fiveWords (message : List Nat) : List Nat :=
  let initial := [0x67452301, 0xefcdab89, 0x98badcfe, 0x10325476, 0xc3d2e1f0]
  let final := (blocksOf 32 false message).foldl
    (fun state block =>
      let words := (List.range 64).foldl
        (fun words i =>
          let word (n : Nat) : Nat := words.getD n 0
          words.push (rotate 32 31 (word i ^^^ word (i + 2) ^^^ word (i + 8) ^^^ word (i + 13))))
        block
      addStates 32 state (words.toList.zipIdx.foldl
        (fun state (word, n) => fiveRound state n word) state))
    initial
  final.flatMap (octetsOf 4)

def sines : List Nat :=
  [0xd76aa478, 0xe8c7b756, 0x242070db, 0xc1bdceee, 0xf57c0faf, 0x4787c62a, 0xa8304613, 0xfd469501,
    0x698098d8, 0x8b44f7af, 0xffff5bb1, 0x895cd7be, 0x6b901122, 0xfd987193, 0xa679438e, 0x49b40821,
    0xf61e2562, 0xc040b340, 0x265e5a51, 0xe9b6c7aa, 0xd62f105d, 0x02441453, 0xd8a1e681, 0xe7d3fbc8,
    0x21e1cde6, 0xc33707d6, 0xf4d50d87, 0x455a14ed, 0xa9e3e905, 0xfcefa3f8, 0x676f02d9, 0x8d2a4c8a,
    0xfffa3942, 0x8771f681, 0x6d9d6122, 0xfde5380c, 0xa4beea44, 0x4bdecfa9, 0xf6bb4b60, 0xbebfbc70,
    0x289b7ec6, 0xeaa127fa, 0xd4ef3085, 0x04881d05, 0xd9d4d039, 0xe6db99e5, 0x1fa27cf8, 0xc4ac5665,
    0xf4292244, 0x432aff97, 0xab9423a7, 0xfc93a039, 0x655b59c3, 0x8f0ccc92, 0xffeff47d, 0x85845dd1,
    0x6fa87e4f, 0xfe2ce6e0, 0xa3014314, 0x4e0811a1, 0xf7537e82, 0xbd3af235, 0x2ad7d2bb, 0xeb86d391]

def fourRound (block : Array Nat) (state : List Nat) (n constant : Nat) : List Nat :=
  match state with
  | [a, b, c, d] =>
      let not (x : Nat) : Nat := complement 32 x
      let (mixed, place, turns) : Nat × Nat × List Nat :=
        if n < 16 then ((b &&& c) ||| (not b &&& d), n, [7, 12, 17, 22])
        else if n < 32 then ((d &&& b) ||| (not d &&& c), (5 * n + 1) % 16, [5, 9, 14, 20])
        else if n < 48 then (b ^^^ c ^^^ d, (3 * n + 5) % 16, [4, 11, 16, 23])
        else (c ^^^ (b ||| not d), 7 * n % 16, [6, 10, 15, 21])
      let sum := (a + mixed + constant + block.getD place 0) % limit 32
      [d, (b + rotate 32 (32 - turns.getD (n % 4) 0) sum) % limit 32, b, c]
  | other => other

def fourWords (message : List Nat) : List Nat :=
  let final := (blocksOf 32 true message).foldl
    (fun state block =>
      addStates 32 state (sines.zipIdx.foldl
        (fun state (constant, n) => fourRound block state n constant) state))
    [0x67452301, 0xefcdab89, 0x98badcfe, 0x10325476]
  final.flatMap fun word => (octetsOf 4 word).reverse

def remainderWith (remainder octet : Nat) : Nat :=
  (List.range 8).foldl
    (fun n _ =>
      let next := n * 2 % limit 32
      if n < 0x80000000 then next else next ^^^ 0x04c11db7)
    (remainder ^^^ (octet <<< 24))

def remainder (message : List Nat) : Nat :=
  let size := message.length
  let length := ((octetsOf 8 size).dropWhile (· == 0)).reverse
  complement 32 ((message ++ length).foldl remainderWith 0)

def turningSum (message : List Nat) : Nat :=
  message.foldl (fun n b => (rotate 16 1 n + b) % limit 16) 0

inductive Digest where
  | four
  | five
  | short (bits : Nat)
  | long (bits : Nat)
deriving DecidableEq, Repr

def Digest.initial : Digest → List Nat
  | .short 224 => (((primes 16).drop 8).map (rootFraction 2 64)).map fun n => n % limit 32
  | .short _ => (primes 8).map (rootFraction 2 32)
  | .long 384 => ((primes 16).drop 8).map (rootFraction 2 64)
  | _ => (primes 8).map (rootFraction 2 64)

def Digest.octets (d : Digest) (octets : Octets) : List Nat :=
  let message := octets.map Char.toNat
  match d with
  | .four => fourWords message
  | .five => fiveWords message
  | .short bits => (Family.short.digest d.initial message).take (bits / 8)
  | .long bits => (Family.long.digest d.initial message).take (bits / 8)

def Digest.text (d : Digest) (octets : Octets) : Octets :=
  (d.octets octets).flatMap fun b => Octets.padLeft '0' 2 (Nat.toDigits 16 b)

end LessonAudit.Program.Checksum
