/-!
# Classes of characters

The classes that patterns name, such as `alpha` and `space`. They hold ASCII
characters only, because text is matched byte by byte. Texts of reports are trimmed by
the larger class of blanks.
-/

namespace ProgramRepair.Text

/-- Whether a character is a space in the sense of the class `space`. -/
def isSpaceChar (c : Char) : Bool := c = ' ' || ('\t' ≤ c && c ≤ '\x0d')

/-- Whether a character belongs to a class; `none` if there is no such class. -/
def classTest? : List Char → Option (Char → Bool)
  | ['a', 'l', 'p', 'h', 'a'] => some Char.isAlpha
  | ['d', 'i', 'g', 'i', 't'] => some Char.isDigit
  | ['a', 'l', 'n', 'u', 'm'] => some Char.isAlphanum
  | ['u', 'p', 'p', 'e', 'r'] => some Char.isUpper
  | ['l', 'o', 'w', 'e', 'r'] => some Char.isLower
  | ['s', 'p', 'a', 'c', 'e'] => some isSpaceChar
  | ['b', 'l', 'a', 'n', 'k'] => some fun c => c = ' ' || c = '\t'
  | ['p', 'u', 'n', 'c', 't'] => some fun c => '!' ≤ c && c ≤ '~' && !c.isAlphanum
  | ['c', 'n', 't', 'r', 'l'] => some fun c => c < ' ' || c = '\x7f'
  | ['p', 'r', 'i', 'n', 't'] => some fun c => ' ' ≤ c && c ≤ '~'
  | ['g', 'r', 'a', 'p', 'h'] => some fun c => '!' ≤ c && c ≤ '~'
  | ['x', 'd', 'i', 'g', 'i', 't'] =>
    some fun c => c.isDigit || ('a' ≤ c && c ≤ 'f') || ('A' ≤ c && c ≤ 'F')
  | _ => none

/-- Whether a character belongs to a class. -/
def inClass (name : List Char) (c : Char) : Bool := (classTest? name).any fun test => test c

/-! ## Blank characters

The characters with Unicode's `White_Space` property, and the trimming of a
text at its ends. The list is the whole property: U+200B and U+FEFF, which
look empty, are not in it.
-/

/-- The code points of `White_Space` outside the runs `9–13` and `2000–200A`. -/
def loneBlanks : List Nat :=
  [0x20, 0x85, 0xA0, 0x1680, 0x2028, 0x2029, 0x202F, 0x205F, 0x3000]

/-- `isBlank c` holds of the characters with the property `White_Space`. -/
def isBlank (c : Char) : Bool :=
  let n := c.toNat
  (9 ≤ n && n ≤ 13) || (0x2000 ≤ n && n ≤ 0x200A) || loneBlanks.contains n

/-- The text without the blanks it starts with. -/
def trimStart (s : List Char) : List Char :=
  s.dropWhile isBlank

/-- The text without the blanks it ends with. -/
def trimEnd (s : List Char) : List Char :=
  (s.reverse.dropWhile isBlank).reverse

/-- The text without blanks at either end. -/
def trim (s : List Char) : List Char :=
  trimEnd (trimStart s)

/-- What core calls whitespace is blank. -/
theorem isBlank_of_isWhitespace {c : Char} (h : c.isWhitespace = true) : isBlank c = true := by
  simp only [Char.isWhitespace, Bool.or_eq_true, decide_eq_true_eq] at h
  rcases h with ((rfl | rfl) | rfl) | rfl <;> decide

end ProgramRepair.Text
