import ProgramRepair.Fault

/-!
# Reproducible random choices

ChaCha with twelve rounds turns a key of eight words and a block number into
sixteen words that look random. Blocks are independent of each other, so the
words of all blocks form one endless sequence per key.

A `Stream` is a place in the endless sequence of words that a seed stands for.
All choices are made from its words in order, so a seed fixes every choice. A
number below `n` is taken by multiplying a word by `n` and keeping the upper
half; words whose lower half shows that they would favour some numbers are
passed over.
-/

namespace ProgramRepair.ChaCha

/-- A key of eight words. -/
structure Key where
  words : Array UInt32
deriving DecidableEq, Repr, Inhabited

/-- A word turned left by `n` bits. -/
def rotate (x : UInt32) (n : UInt32) : UInt32 :=
  (x <<< n) ||| (x >>> (32 - n))

/-- The four words that a quarter round works on. -/
structure Quarter where
  a : UInt32
  b : UInt32
  c : UInt32
  d : UInt32

/-- One quarter round. -/
def Quarter.round (q : Quarter) : Quarter :=
  let a := q.a + q.b
  let d := rotate (q.d ^^^ a) 16
  let c := q.c + d
  let b := rotate (q.b ^^^ c) 12
  let a := a + b
  let d := rotate (d ^^^ a) 8
  let c := c + d
  let b := rotate (b ^^^ c) 7
  ⟨a, b, c, d⟩

/-- The quarter round on four places of the state. -/
def quarterRound (s : Array UInt32) (i j k l : Nat) : Array UInt32 :=
  let q := Quarter.round ⟨s[i]?.getD 0, s[j]?.getD 0, s[k]?.getD 0, s[l]?.getD 0⟩
  (((s.setIfInBounds i q.a).setIfInBounds j q.b).setIfInBounds k q.c).setIfInBounds l q.d

/-- A round along the columns and one along the diagonals. -/
def doubleRound (s : Array UInt32) : Array UInt32 :=
  let s := quarterRound s 0 4 8 12
  let s := quarterRound s 1 5 9 13
  let s := quarterRound s 2 6 10 14
  let s := quarterRound s 3 7 11 15
  let s := quarterRound s 0 5 10 15
  let s := quarterRound s 1 6 11 12
  let s := quarterRound s 2 7 8 13
  quarterRound s 3 4 9 14

/-- The words `expand 32-byte k` that every block starts from. -/
def constants : Array UInt32 := #[0x61707865, 0x3320646e, 0x79622d32, 0x6b206574]

/-- The state before the first round. -/
def initial (key : Key) (block : Nat) : Array UInt32 :=
  constants ++ key.words ++ #[UInt32.ofNat block, UInt32.ofNat (block / Nat.pow 2 32), 0, 0]

/-- The words of a block. -/
def block (key : Key) (number : Nat) : Array UInt32 :=
  let start := initial key number
  let mixed := Nat.repeat doubleRound 6 start
  Array.zipWith (· + ·) mixed start

end ProgramRepair.ChaCha

namespace ProgramRepair

/-- A place in the sequence of words of a key. -/
structure Stream where
  key : ChaCha.Key
  /-- The number of the block after `words`. -/
  nextBlock : Nat
  /-- The words of the current block. -/
  words : Array UInt32
  /-- How many of them are used up. -/
  used : Nat
deriving Repr, Inhabited

namespace Stream

/-! ## Seeds -/

/-- One step of the generator that spreads a seed over the words of a key. -/
def seedStep (state : UInt64) : UInt64 :=
  state * 6364136223846793005 + 11634580027462260723

/-- The word that a state of that generator gives. -/
def seedWord (state : UInt64) : UInt32 :=
  let x := (((state >>> 18) ^^^ state) >>> 27).toUInt32
  let turn := (state >>> 59).toUInt32
  (x >>> turn) ||| (x <<< ((32 - turn) % 32))

/-- The words that follow a state. -/
def seedWords : Nat → UInt64 → List UInt32
  | 0, _ => []
  | n + 1, state =>
    let next := seedStep state
    seedWord next :: seedWords n next

/-- The stream of a seed. -/
def ofSeed (seed : UInt64) : Stream :=
  let key : ChaCha.Key := ⟨(seedWords 8 seed).toArray⟩
  ⟨key, 1, ChaCha.block key 0, 0⟩

/-- The odd factor that keeps the seeds of different streams apart. -/
def streamFactor : UInt64 := 0x9E3779B97F4A7C15

/-- The seed of the stream with a given number under a master seed. -/
def deriveSeed (seed stream : UInt64) : UInt64 := seed ^^^ (stream * streamFactor)

/-- The stream with a given number under a master seed. -/
def derive (seed stream : UInt64) : Stream := ofSeed (deriveSeed seed stream)

/-! ## Words -/

/-- The next word. -/
def word (s : Stream) : UInt32 × Stream :=
  match s.words[s.used]? with
  | some w => (w, { s with used := s.used + 1 })
  | none =>
    let words := ChaCha.block s.key s.nextBlock
    (words[0]?.getD 0, { s with nextBlock := s.nextBlock + 1, words, used := 1 })

/-- The next two words as one, the lower half first. -/
def doubleWord (s : Stream) : UInt64 × Stream :=
  let (low, s) := s.word
  let (high, s) := s.word
  (high.toUInt64 <<< 32 ||| low.toUInt64, s)

/-- The two sizes in which numbers are drawn. -/
inductive Width where
  | single
  | double
deriving DecidableEq, Repr

def Width.bits : Width → Nat
  | single => 32
  | double => 64

/-- The next number of a given size. -/
def draw (s : Stream) : Width → Nat × Stream
  | .single => let (w, s) := s.word; (w.toNat, s)
  | .double => let (w, s) := s.doubleWord; (w.toNat, s)

/-! ## Choices -/

/-- A fair coin. -/
def coin (s : Stream) : Bool × Stream :=
  let (w, s) := s.doubleWord
  (w.toNat < Nat.pow 2 63, s)

/-- The largest lower half that is not passed over when numbers below `n` are drawn. -/
def zone (width : Width) (n : Nat) : Nat :=
  n * Nat.pow 2 (width.bits - (n.log2 + 1)) - 1

/-- A number below `n`, with at most `fuel` words passed over. -/
def belowWithin (width : Width) (n : Nat) : Nat → Stream → Nat × Stream
  | 0, s => let (v, s) := s.draw width; (v * n / Nat.pow 2 width.bits, s)
  | fuel + 1, s =>
    let (v, s') := s.draw width
    let product := v * n
    if product % Nat.pow 2 width.bits ≤ zone width n then (product / Nat.pow 2 width.bits, s')
    else belowWithin width n fuel s'

/-- How many words are passed over at most. At least every other word is accepted, so this is
never reached in practice; the number that is then taken is below `n` all the same. -/
def patience : Nat := 4096

/-- A number below `n`, each equally likely. -/
def below (width : Width) (n : Nat) (s : Stream) : Nat × Stream :=
  belowWithin width n patience s

/-- A place in a list of length `n`; there has to be one. -/
def index (n : Nat) (s : Stream) : Except Fault (Nat × Stream) :=
  if n = 0 then .error .emptyRange else .ok (s.below .double n)

/-- A member of a list, if it has one. -/
def choose (items : List α) (s : Stream) : Option α × Stream :=
  if items.isEmpty then (none, s)
  else
    let (i, s) := s.below .single items.length
    (items[i]?, s)

end Stream

end ProgramRepair
