/-!
# Bytes and text

Text is stored as bytes in UTF-8. Not every sequence of bytes is text: a lead
byte says how many bytes follow and in which range the first of them lies, and
`step` takes one character or the longest start of one off a sequence. `decode?`
reads a sequence that is text throughout and `decodeLossy` any sequence, with
U+FFFD for each start of a character that does not go on as it should.
-/

namespace ProgramRepair

/-- A sequence of bytes. -/
abbrev Bytes := List UInt8

namespace Text

/-- The bytes of a text. -/
def encode (s : List Char) : Bytes := s.flatMap String.utf8EncodeChar

/-- What a lead byte announces. -/
structure Lead where
  /-- The bits that the lead byte itself holds. -/
  bits : Nat
  /-- The number of bytes that follow. -/
  following : Nat
  /-- The range of the first byte that follows. -/
  low : UInt8
  high : UInt8

/-- The meaning of a byte at the start of a character, if it can stand there. -/
def lead? (b : UInt8) : Option Lead :=
  let n := b.toNat
  if n < 0x80 then some ⟨n, 0, 0x80, 0xBF⟩
  else if n < 0xC2 then none
  else if n < 0xE0 then some ⟨n - 0xC0, 1, 0x80, 0xBF⟩
  else if n = 0xE0 then some ⟨0, 2, 0xA0, 0xBF⟩
  else if n = 0xED then some ⟨0xD, 2, 0x80, 0x9F⟩
  else if n < 0xF0 then some ⟨n - 0xE0, 2, 0x80, 0xBF⟩
  else if n = 0xF0 then some ⟨0, 3, 0x90, 0xBF⟩
  else if n < 0xF4 then some ⟨n - 0xF0, 3, 0x80, 0xBF⟩
  else if n = 0xF4 then some ⟨4, 3, 0x80, 0x8F⟩
  else none

/-- Reads the bytes that follow a lead byte; the bytes that do not belong to the character are
left. -/
def follow (low high : UInt8) (bits : Nat) : (following : Nat) → Bytes → Option Nat × Bytes
  | 0, bytes => (some bits, bytes)
  | _ + 1, [] => (none, [])
  | following + 1, b :: bytes =>
    if low ≤ b ∧ b ≤ high then
      follow 0x80 0xBF (bits * 64 + (b.toNat - 0x80)) following bytes
    else (none, b :: bytes)

theorem length_follow_le (low high : UInt8) (bits following : Nat) (bytes : Bytes) :
    (follow low high bits following bytes).2.length ≤ bytes.length := by
  induction following generalizing low high bits bytes with
  | zero => simp [follow]
  | succ n ih =>
    cases bytes with
    | nil => simp [follow]
    | cons b bytes =>
      simp only [follow]
      split
      · exact Nat.le_trans (ih _ _ _ _) (by simp)
      · simp

/-- Takes a character off the bytes that start with `b`, or the longest start of one. -/
def step (b : UInt8) (bytes : Bytes) : Option Char × Bytes :=
  match lead? b with
  | none => (none, bytes)
  | some l =>
    let (code, rest) := follow l.low l.high l.bits l.following bytes
    (code.map Char.ofNat, rest)

theorem length_step_le (b : UInt8) (bytes : Bytes) : (step b bytes).2.length ≤ bytes.length := by
  simp only [step]
  split
  · simp
  · exact length_follow_le _ _ _ _ _

/-- The text that some bytes stand for, if they stand for text. -/
def decode? : Bytes → Option (List Char)
  | [] => some []
  | b :: bytes =>
    match (step b bytes).1 with
    | some c => (decode? (step b bytes).2).map (c :: ·)
    | none => none
termination_by bytes => bytes.length
decreasing_by
  have := length_step_le b bytes
  simp
  omega

/-- The mark for bytes that are no text. -/
def replacement : Char := '\ufffd'

/-- The text that some bytes stand for, with a mark wherever they stand for none. -/
def decodeLossy : Bytes → List Char
  | [] => []
  | b :: bytes => (step b bytes).1.getD replacement :: decodeLossy (step b bytes).2
termination_by bytes => bytes.length
decreasing_by
  have := length_step_le b bytes
  simp
  omega

/-- The bytes of a string. -/
def bytesOf (s : String) : Bytes := encode s.toList

/-- Bytes as characters, one for each byte. -/
def charsOfBytes (bytes : Bytes) : List Char := bytes.map fun b => Char.ofNat b.toNat

/-- The bytes that characters below 256 stand for. -/
def bytesOfChars (cs : List Char) : Bytes := cs.map fun c => UInt8.ofNat c.toNat

end Text

end ProgramRepair
