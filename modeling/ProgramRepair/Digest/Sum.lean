import ProgramRepair.Text.Utf8

/-!
# Digests

A digest of a message is computed block by block: the message is padded to whole
blocks, each block changes a state of a few words, and the words of the last state are
the digest. Constants are taken from roots of primes, which `rootPlaces` computes
exactly. The digests are those of the programs of the system: MD5, SHA-1, the family of
SHA-2 with words of 32 and of 64 bits, and SM3.
-/

namespace ProgramRepair.Digest

/-- Words with the operations that digests are made of. -/
class Word (α : Type) where
  /-- The number of bytes. -/
  size : Nat
  ofNat : Nat → α
  toNat : α → Nat
  add : α → α → α
  xor : α → α → α
  and : α → α → α
  or : α → α → α
  not : α → α
  shiftRight : α → Nat → α
  shiftLeft : α → Nat → α

instance : Word UInt32 where
  size := 4
  ofNat := UInt32.ofNat
  toNat := UInt32.toNat
  add a b := a + b
  xor a b := a ^^^ b
  and a b := a &&& b
  or a b := a ||| b
  not a := ~~~a
  shiftRight a n := a >>> UInt32.ofNat n
  shiftLeft a n := a <<< UInt32.ofNat n

instance : Word UInt64 where
  size := 8
  ofNat := UInt64.ofNat
  toNat := UInt64.toNat
  add a b := a + b
  xor a b := a ^^^ b
  and a b := a &&& b
  or a b := a ||| b
  not a := ~~~a
  shiftRight a n := a >>> UInt64.ofNat n
  shiftLeft a n := a <<< UInt64.ofNat n

section

variable {α : Type} [Word α]

/-- A word turned to the right by some bits. -/
@[specialize] def turnRight (a : α) (n : Nat) : α :=
  Word.or (Word.shiftRight a n) (Word.shiftLeft a (8 * Word.size α - n))

/-- A word turned to the left by some bits. -/
@[specialize] def turnLeft (a : α) (n : Nat) : α := turnRight a (8 * Word.size α - n)

/-- For each bit that of the second word where the first one is set, and else that of the third. -/
@[specialize] def choose (a b c : α) : α := Word.xor (Word.and a b) (Word.and (Word.not a) c)

/-- For each bit what most of three words have there. -/
@[specialize] def majority (a b c : α) : α :=
  Word.xor (Word.xor (Word.and a b) (Word.and a c)) (Word.and b c)

/-- The exclusive or of three words. -/
@[specialize] def parity (a b c : α) : α := Word.xor (Word.xor a b) c

end

/-! ## Bytes -/

/-- The bytes of a number with the highest in front. -/
def bytesOf (count n : Nat) : Bytes :=
  (List.range count).reverse.map fun i => UInt8.ofNat (n >>> (8 * i))

/-- The number of bytes with the highest in front. -/
def numberOf (bytes : Bytes) : Nat := bytes.foldl (fun n b => 256 * n + b.toNat) 0

/-- Which end of a number comes first. -/
inductive Order where
  | highFirst
  | lowFirst
deriving DecidableEq, Repr

/-- Bytes in an order, from those with the highest in front. -/
def Order.arrange (o : Order) (bytes : Bytes) : Bytes :=
  match o with
  | highFirst => bytes
  | lowFirst => bytes.reverse

/-- Pieces of a list that all have the same size. A rest that is too short is left out. -/
def pieces (size : Nat) (xs : List β) : List (List β) :=
  (List.range (xs.length / size)).foldl (fun (found, rest) _ =>
    (rest.take size :: found, rest.drop size)) (([], xs) : List (List β) × List β) |>.1.reverse

/-- How messages become blocks. -/
structure Padding where
  block : Nat
  /-- The bytes for the length of the message. -/
  lengthBytes : Nat
  order : Order

/-- A message with a bit behind it, zeros up to the end of a block, and its length in bits. -/
def Padding.apply (p : Padding) (message : Bytes) : Bytes :=
  let used := (message.length + 1 + p.lengthBytes) % p.block
  let zeros := if used = 0 then 0 else p.block - used
  message ++ 0x80 :: List.replicate zeros 0 ++
    p.order.arrange (bytesOf p.lengthBytes (8 * message.length))

/-- The words of a block. -/
def wordsOf (α : Type) [Word α] (o : Order) (block : Bytes) : Array α :=
  ((pieces (Word.size α) block).map fun bytes => Word.ofNat (numberOf (o.arrange bytes))).toArray

/-- The digest of a message: the bytes of the state after all blocks. -/
@[specialize] def compute {α : Type} [Word α] (p : Padding) (step : Array α → Array α → Array α)
    (start : Array α) (message : Bytes) : Bytes :=
  let last := (pieces p.block (p.apply message)).foldl (fun state block =>
    step state (wordsOf α p.order block)) start
  last.toList.flatMap fun w => p.order.arrange (bytesOf (Word.size α) (Word.toNat w))

/-- Two states added word by word. -/
@[specialize] def addStates {α : Type} [Word α] (a b : Array α) : Array α := a.zipWith Word.add b

/-- An entry of an array of words, or zero. -/
@[specialize] def at' {α : Type} [Word α] (a : Array α) (i : Nat) : α :=
  (a[i]?).getD (Word.ofNat 0)

/-! ## Roots of primes -/

/-- The first primes below a bound, by division. -/
def primesBelow (bound : Nat) : List Nat :=
  ((List.range bound).drop 2).filter fun n =>
    ((List.range n).drop 2).all fun d => d * d > n || n % d ≠ 0

/-- The greatest number whose power is not above another one: bits are tried from the highest. -/
def root (degree n : Nat) : (bits : Nat) → (found : Nat) → Nat
  | 0, found => found
  | bits + 1, found =>
    let next := found + 1 <<< bits
    if Nat.pow next degree ≤ n then root degree n bits next else root degree n bits found

/-- The first bits behind the point of a root. -/
def rootPlaces (degree bits n : Nat) : Nat :=
  root degree (n <<< (degree * bits)) (bits + 8) 0 % (1 <<< bits)

/-! ## MD5 -/

/-- The bits behind the point with which sines are computed. -/
def sineBits : Nat := 192

/-- The sine of a whole number of radians in units of `2 ^ -sineBits`, by its series. -/
def sineUnits (x : Nat) : Int :=
  let terms := (List.range 200).foldl (fun (sum, term) k =>
    let next : Int := -(term * (x * x : Nat)) / (((2 * k + 2) * (2 * k + 3) : Nat) : Int)
    (sum + term, next)) (((0 : Int), (((x <<< sineBits : Nat)) : Int)) : Int × Int)
  terms.1

/-- The constants of MD5: the first 32 bits of the sines of 1, 2, 3 and so on without their signs. -/
def sineWords : Array UInt32 :=
  ((List.range 64).map fun i =>
    UInt32.ofNat ((sineUnits (i + 1)).natAbs >>> (sineBits - 32))).toArray

/-- By how much words are turned in the four rounds of MD5. -/
def turns : Array (Array Nat) :=
  #[#[7, 12, 17, 22], #[5, 9, 14, 20], #[4, 11, 16, 23], #[6, 10, 15, 21]]

/-- A step of MD5 with the state as four words. -/
def md5Round (block : Array UInt32) (s : UInt32 × UInt32 × UInt32 × UInt32) (i : Nat) :
    UInt32 × UInt32 × UInt32 × UInt32 :=
  let (a, b, c, d) := s
  let (mixed, g) := match i / 16 with
    | 0 => (choose b c d, i)
    | 1 => (choose d b c, 5 * i + 1)
    | 2 => (parity b c d, 3 * i + 5)
    | _ => (c ^^^ (b ||| ~~~d), 7 * i)
  let sum := a + mixed + at' sineWords i + at' block (g % 16)
  let turn := (((turns[i / 16]?).getD #[])[i % 4]?).getD 0
  (d, b + turnLeft sum turn, b, c)

def md5Step (state block : Array UInt32) : Array UInt32 :=
  let start := (at' state 0, at' state 1, at' state 2, at' state 3)
  let (a, b, c, d) := (List.range 64).foldl (md5Round block) start
  addStates state #[a, b, c, d]

/-- The state with which MD5 and SHA-1 start. -/
def countingStart : Array UInt32 := #[0x67452301, 0xEFCDAB89, 0x98BADCFE, 0x10325476, 0xC3D2E1F0]

def md5 : Bytes → Bytes := compute ⟨64, 8, .lowFirst⟩ md5Step (countingStart.take 4)

/-! ## SHA-1 -/

/-- The words of a block followed by words that depend on those before. -/
@[specialize] def schedule {α : Type} [Word α] (count : Nat) (next : Array α → Nat → α)
    (block : Array α) : Array α :=
  (List.range (count - 16)).foldl (fun w i => w.push (next w (i + 16))) block

/-- The constants of SHA-1: square roots of 2, 3, 5 and 10 in units of `2 ^ -30`. -/
def squareRootWords : Array UInt32 :=
  ([2, 3, 5, 10].map fun n => UInt32.ofNat (root 2 (n <<< 60) 40 0)).toArray

def sha1Round (w : Array UInt32) (s : UInt32 × UInt32 × UInt32 × UInt32 × UInt32) (i : Nat) :
    UInt32 × UInt32 × UInt32 × UInt32 × UInt32 :=
  let (a, b, c, d, e) := s
  let mixed := match i / 20 with
    | 0 => choose b c d
    | 2 => majority b c d
    | _ => parity b c d
  (turnLeft a 5 + mixed + e + at' squareRootWords (i / 20) + at' w i, a, turnLeft b 30, c, d)

def sha1Step (state block : Array UInt32) : Array UInt32 :=
  let w := schedule 80 (fun w i =>
    turnLeft (at' w (i - 3) ^^^ at' w (i - 8) ^^^ at' w (i - 14) ^^^ at' w (i - 16)) 1) block
  let start := (at' state 0, at' state 1, at' state 2, at' state 3, at' state 4)
  let (a, b, c, d, e) := (List.range 80).foldl (sha1Round w) start
  addStates state #[a, b, c, d, e]

def sha1 : Bytes → Bytes := compute ⟨64, 8, .highFirst⟩ sha1Step countingStart

/-! ## SHA-2 -/

/-- What the members of the family differ in: the number of rounds, and by how much words are turned
or, at the end of the last two lists, shifted. -/
structure Family (α : Type) where
  rounds : Nat
  large0 : Nat × Nat × Nat
  large1 : Nat × Nat × Nat
  small0 : Nat × Nat × Nat
  small1 : Nat × Nat × Nat
  constants : Array α

section

variable {α : Type} [Word α]

/-- A word turned in three ways. -/
@[specialize] def large (n : Nat × Nat × Nat) (a : α) : α :=
  parity (turnRight a n.1) (turnRight a n.2.1) (turnRight a n.2.2)

/-- A word turned in two ways and shifted. -/
@[specialize] def small (n : Nat × Nat × Nat) (a : α) : α :=
  parity (turnRight a n.1) (turnRight a n.2.1) (Word.shiftRight a n.2.2)

/-- The word after others in the schedule of a family. -/
@[specialize] def Family.next (f : Family α) (w : Array α) (i : Nat) : α :=
  Word.add (Word.add (at' w (i - 16)) (small f.small0 (at' w (i - 15))))
    (Word.add (at' w (i - 7)) (small f.small1 (at' w (i - 2))))

@[specialize] def Family.round (f : Family α) (w : Array α) (s : α × α × α × α × α × α × α × α)
    (i : Nat) : α × α × α × α × α × α × α × α :=
  let (a, b, c, d, e, g, h, k) := s
  let first := Word.add (Word.add (Word.add k (large f.large1 e)) (choose e g h))
    (Word.add (at' f.constants i) (at' w i))
  let second := Word.add (large f.large0 a) (majority a b c)
  (Word.add first second, a, b, c, Word.add d first, e, g, h)

@[specialize] def Family.step (f : Family α) (state block : Array α) : Array α :=
  let w := schedule f.rounds f.next block
  let start := (at' state 0, at' state 1, at' state 2, at' state 3, at' state 4, at' state 5,
    at' state 6, at' state 7)
  let (a, b, c, d, e, g, h, k) := (List.range f.rounds).foldl (f.round w) start
  addStates state #[a, b, c, d, e, g, h, k]

end

/-- The primes for the constants. -/
def primes : List Nat := primesBelow 410

/-- The first bits behind the points of cube roots of primes. -/
def cubeRootWords (α : Type) [Word α] (count : Nat) : Array α :=
  ((primes.take count).map fun p => Word.ofNat (rootPlaces 3 (8 * Word.size α) p)).toArray

/-- The first 64 bits behind the points of square roots of eight primes. -/
def squareRootPlaces (skipped : Nat) : List Nat :=
  ((primes.drop skipped).take 8).map (rootPlaces 2 64)

def family32 : Family UInt32 where
  rounds := 64
  large0 := (2, 13, 22)
  large1 := (6, 11, 25)
  small0 := (7, 18, 3)
  small1 := (17, 19, 10)
  constants := cubeRootWords UInt32 64

def family64 : Family UInt64 where
  rounds := 80
  large0 := (28, 34, 39)
  large1 := (14, 18, 41)
  small0 := (1, 8, 7)
  small1 := (19, 61, 6)
  constants := cubeRootWords UInt64 80

/-- The digest with words of 32 bits from some start. -/
def sha2Of32 (start : List Nat) : Bytes → Bytes :=
  compute ⟨64, 8, .highFirst⟩ family32.step (start.map UInt32.ofNat).toArray

/-- The digest with words of 64 bits from some start. -/
def sha2Of64 (start : List Nat) : Bytes → Bytes :=
  compute ⟨128, 16, .highFirst⟩ family64.step (start.map UInt64.ofNat).toArray

/-- The start is in the high halves of the roots of the first eight primes. -/
def sha256 (message : Bytes) : Bytes := sha2Of32 ((squareRootPlaces 0).map (· >>> 32)) message

/-- The start is in the low halves of the roots of the next eight primes. -/
def sha224 (message : Bytes) : Bytes := (sha2Of32 (squareRootPlaces 8) message).take 28

def sha512 (message : Bytes) : Bytes := sha2Of64 (squareRootPlaces 0) message

def sha384 (message : Bytes) : Bytes := (sha2Of64 (squareRootPlaces 8) message).take 48

/-! ## SM3 -/

/-- The words that SM3 starts with. -/
def sm3Start : Array UInt32 :=
  #[0x7380166F, 0x4914B2B9, 0x172442D7, 0xDA8A0600, 0xA96F30BC, 0x163138AA, 0xE38DEE4D, 0xB0FB0E4E]

/-- A word spread by two turns. -/
def spread (m n : Nat) (a : UInt32) : UInt32 := parity a (turnLeft a m) (turnLeft a n)

/-- The word after others in the schedule of SM3. -/
def sm3Next (w : Array UInt32) (i : Nat) : UInt32 :=
  parity (spread 15 23 (parity (at' w (i - 16)) (at' w (i - 9)) (turnLeft (at' w (i - 3)) 15)))
    (turnLeft (at' w (i - 13)) 7) (at' w (i - 6))

/-- A step of SM3 with the first half and the second half of the state. -/
def sm3Round (w : Array UInt32)
    (s : (UInt32 × UInt32 × UInt32 × UInt32) × (UInt32 × UInt32 × UInt32 × UInt32)) (i : Nat) :
    (UInt32 × UInt32 × UInt32 × UInt32) × (UInt32 × UInt32 × UInt32 × UInt32) :=
  let ((a, b, c, d), (e, f, g, h)) := s
  let isEarly := i < 16
  let key : UInt32 := if isEarly then 0x79CC4519 else 0x7A879D8A
  let turned := turnLeft a 12
  let first := turnLeft (turned + e + turnLeft key (i % 32)) 7
  let mixed := (if isEarly then parity a b c else majority a b c) + d + (first ^^^ turned) +
    (at' w i ^^^ at' w (i + 4))
  let other := (if isEarly then parity e f g else choose e f g) + h + first + at' w i
  ((mixed, a, turnLeft b 9, c), (spread 9 17 other, e, turnLeft f 19, g))

def sm3Step (state block : Array UInt32) : Array UInt32 :=
  let w := schedule 68 sm3Next block
  let start := ((at' state 0, at' state 1, at' state 2, at' state 3),
    (at' state 4, at' state 5, at' state 6, at' state 7))
  let ((a, b, c, d), (e, f, g, h)) := (List.range 64).foldl (sm3Round w) start
  state.zipWith (· ^^^ ·) #[a, b, c, d, e, f, g, h]

def sm3 : Bytes → Bytes := compute ⟨64, 8, .highFirst⟩ sm3Step sm3Start

/-! ## Checksums -/

/-- The remainder of a bit sequence by the polynomial of the POSIX checksum, which is taken in bit
by bit. -/
def crcByte (crc : UInt32) (b : UInt8) : UInt32 :=
  (List.range 8).foldl (fun c _ =>
    if c &&& 0x80000000 = 0 then c <<< 1 else (c <<< 1) ^^^ 0x04C11DB7) (crc ^^^ (b.toUInt32 <<< 24))

/-- The bytes of a length with the lowest in front and without zeros behind. -/
def lengthBytes : (fuel n : Nat) → Bytes
  | 0, _ => []
  | fuel + 1, n => if n = 0 then [] else UInt8.ofNat n :: lengthBytes fuel (n / 256)

/-- The checksum of POSIX. -/
def crc (message : Bytes) : Nat :=
  (~~~((message ++ lengthBytes 16 message.length).foldl crcByte 0)).toNat

/-- The sum of bytes in 16 bits that are turned to the right before each of them. -/
def turningSum (message : Bytes) : Nat :=
  message.foldl (fun s b => (s / 2 + s % 2 * 0x8000 + b.toNat) % 0x10000) 0

/-- The sum of bytes with what goes over 16 bits added again. -/
def foldedSum (message : Bytes) : Nat :=
  let s := message.foldl (fun s b => (s + b.toNat) % 0x100000000) 0
  let r := s % 0x10000 + s / 0x10000
  r % 0x10000 + r / 0x10000

/-! ## BLAKE2b

A digest of any number of bytes up to 64. Its blocks are padded with zeros, and the
number of bytes so far and a mark on the last block go into the state instead.
-/

/-- The orders in which the words of a block are mixed in, one for each round but the last two,
which are like the first two. -/
def mixingOrders : List (List Nat) :=
  [[0, 1, 2, 3, 4, 5, 6, 7, 8, 9, 10, 11, 12, 13, 14, 15],
   [14, 10, 4, 8, 9, 15, 13, 6, 1, 12, 0, 2, 11, 7, 5, 3],
   [11, 8, 12, 0, 5, 2, 15, 13, 10, 14, 3, 6, 7, 1, 9, 4],
   [7, 9, 3, 1, 13, 12, 11, 14, 2, 6, 5, 10, 4, 0, 15, 8],
   [9, 0, 5, 7, 2, 4, 10, 15, 14, 1, 11, 12, 6, 8, 3, 13],
   [2, 12, 6, 10, 0, 11, 8, 3, 4, 13, 7, 5, 15, 14, 1, 9],
   [12, 5, 1, 15, 14, 13, 4, 10, 0, 7, 6, 3, 9, 2, 8, 11],
   [13, 11, 7, 14, 12, 1, 3, 9, 5, 0, 15, 4, 8, 6, 2, 10],
   [6, 15, 14, 9, 11, 3, 0, 8, 12, 2, 13, 7, 1, 4, 10, 5],
   [10, 2, 8, 4, 7, 6, 1, 5, 15, 11, 9, 14, 3, 12, 13, 0]]

/-- The places of the four words that are mixed together: the columns and then the diagonals of a
square. -/
def mixingPlaces : List (Nat × Nat × Nat × Nat) :=
  [(0, 4, 8, 12), (1, 5, 9, 13), (2, 6, 10, 14), (3, 7, 11, 15), (0, 5, 10, 15), (1, 6, 11, 12),
    (2, 7, 8, 13), (3, 4, 9, 14)]

/-- Mixes two words of a block into four words of the state. -/
def mix (v : Array UInt64) (places : Nat × Nat × Nat × Nat) (x y : UInt64) : Array UInt64 :=
  let (i, j, k, l) := places
  let a := at' v i + at' v j + x
  let d := turnRight (at' v l ^^^ a) 32
  let c := at' v k + d
  let b := turnRight (at' v j ^^^ c) 24
  let a := a + b + y
  let d := turnRight (d ^^^ a) 16
  let c := c + d
  let b := turnRight (b ^^^ c) 63
  (((v.set! i a).set! j b).set! k c).set! l d

/-- Mixes a block into the state in some order. -/
def mixAll (block v : Array UInt64) (order : List Nat) : Array UInt64 :=
  (mixingPlaces.zip (pieces 2 order)).foldl (fun v (places, pair) =>
    match pair with
    | [x, y] => mix v places (at' block x) (at' block y)
    | _ => v) v

/-- The words that the state of every block starts with in its second half. -/
def mixingStart : Array UInt64 := ((squareRootPlaces 0).map UInt64.ofNat).toArray

/-- The state after a block; `count` is the number of bytes so far. -/
def mixBlock (isLast : Bool) (count : Nat) (state block : Array UInt64) : Array UInt64 :=
  let mark : UInt64 := if isLast then ~~~0 else 0
  let counted := (mixingStart.modify 4 (· ^^^ UInt64.ofNat count)).modify 6 (· ^^^ mark)
  let rounds := mixingOrders ++ mixingOrders.take 2
  let v := rounds.foldl (mixAll block) (state ++ counted)
  state.mapIdx fun i w => w ^^^ at' v i ^^^ at' v (i + 8)

/-- Goes through the blocks of a message after some number of bytes. -/
def mixBlocks (state : Array UInt64) (count : Nat) : (fuel : Nat) → Bytes → Array UInt64
  | 0, _ => state
  | fuel + 1, message =>
    let piece := message.take 128
    let rest := message.drop 128
    let block := wordsOf UInt64 .lowFirst (piece ++ List.replicate (128 - piece.length) 0)
    let count := count + piece.length
    if rest.isEmpty then mixBlock true count state block
    else mixBlocks (mixBlock false count state block) count fuel rest

/-- The digest of a message with some number of bytes. -/
def blake2b (size : Nat) (message : Bytes) : Bytes :=
  let start := mixingStart.modify 0 (· ^^^ UInt64.ofNat (0x01010000 + size))
  let last := mixBlocks start 0 (message.length + 1) message
  (last.toList.flatMap fun w => (bytesOf 8 w.toNat).reverse).take size

end ProgramRepair.Digest
