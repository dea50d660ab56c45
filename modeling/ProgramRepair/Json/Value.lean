import ProgramRepair.Binary64.Decimal
import ProgramRepair.Text.Unprinted

/-!
# JSON values and their text

A value keeps the fields of its objects in order. It is written without any
blanks (`compact`) or one item to a line, two spaces deeper than what it stands
in (`pretty`).

A text fails to be read for one of the causes listed here. Some say that the
text is no JSON, others that a value does not fit where it stands. An error
has a place in the text unless it arises from a value that was read before.
-/

namespace ProgramRepair.Json

/-- A JSON value. Whole numbers and others are kept apart. -/
inductive Value where
  | null
  | boolean (b : Bool)
  | integer (n : Int)
  | float (x : Binary64)
  | string (s : String)
  | array (items : List Value)
  | object (fields : List (String × Value))
deriving Repr, Inhabited

namespace Value

/-! ## Text of the parts -/

/-- A digit of a hexadecimal number. -/
def hexDigit (n : Nat) : Char := Nat.digitChar n

/-- A character inside a string. Quotes, backslashes and controls below the space are escaped. -/
def escapedChar (c : Char) : List Char :=
  if c = '\x22' then ['\\', '\x22']
  else if c = '\\' then ['\\', '\\']
  else if c.toNat = 8 then ['\\', 'b']
  else if c.toNat = 12 then ['\\', 'f']
  else if c = '\n' then ['\\', 'n']
  else if c = '\r' then ['\\', 'r']
  else if c = '\t' then ['\\', 't']
  else if c.toNat < 0x20 then
    ['\\', 'u', '0', '0', hexDigit (c.toNat / 16), hexDigit (c.toNat % 16)]
  else [c]

/-- A string between double quotes. -/
def stringText (s : List Char) : List Char :=
  '\x22' :: s.flatMap escapedChar ++ ['\x22']

/-- A number; what is no finite number is written as null. -/
def floatText (x : Binary64) : List Char :=
  if x.isFinite then (x.text .json).toList else "null".toList

/-- A value without items: everything but filled arrays and objects. -/
def atomText : Value → List Char
  | null => "null".toList
  | boolean true => "true".toList
  | boolean false => "false".toList
  | integer n => (toString n).toList
  | float x => floatText x
  | string s => stringText s.toList
  | array _ => ['[', ']']
  | object _ => ['\x7b', '\x7d']

/-! ## Whole values -/

/-- How items are set apart. -/
inductive Style where
  | compact
  | pretty
deriving DecidableEq, Repr

/-- What stands before an item at a given depth. -/
def Style.gap (style : Style) (depth : Nat) : List Char :=
  match style with
  | compact => []
  | pretty => '\n' :: List.replicate (2 * depth) ' '

/-- What stands between a key and its value. -/
def Style.colon : Style → List Char
  | compact => [':']
  | pretty => [':', ' ']

mutual

/-- The text of a value at a given depth. -/
def write (style : Style) (depth : Nat) : Value → List Char
  | array (item :: items) =>
    '[' :: style.gap (depth + 1) ++ write style (depth + 1) item ++
      writeItems style (depth + 1) items ++ style.gap depth ++ [']']
  | object ((key, value) :: fields) =>
    '\x7b' :: style.gap (depth + 1) ++ stringText key.toList ++ style.colon ++
      write style (depth + 1) value ++ writeFields style (depth + 1) fields ++
      style.gap depth ++ ['\x7d']
  | value => atomText value

/-- The items after the first one. -/
def writeItems (style : Style) (depth : Nat) : List Value → List Char
  | [] => []
  | item :: items =>
    ',' :: style.gap depth ++ write style depth item ++ writeItems style depth items

/-- The fields after the first one. -/
def writeFields (style : Style) (depth : Nat) : List (String × Value) → List Char
  | [] => []
  | (key, value) :: fields =>
    ',' :: style.gap depth ++ stringText key.toList ++ style.colon ++ write style depth value ++
      writeFields style depth fields

end

/-- The text without blanks. -/
def compact (v : Value) : String := String.ofList (v.write .compact 0)

/-- The text with one item to a line. -/
def pretty (v : Value) : String := String.ofList (v.write .pretty 0)

end Value

/-! ## Errors of reading -/

/-- What stands where something else was expected. -/
inductive Found where
  | null
  | boolean (b : Bool)
  | integer (n : Int)
  | float (x : Binary64)
  | string (s : String)
  | sequence
  | map
  | unitVariant
deriving DecidableEq, Repr

/-- What was found, in words. -/
def Found.text : Found → String
  | null => "null"
  | boolean b => "boolean \x60" ++ (if b then "true" else "false") ++ "\x60"
  | integer n => "integer \x60" ++ toString n ++ "\x60"
  | float x => "floating point \x60" ++ x.text .json ++ "\x60"
  | string s => "string " ++ Text.quoted s
  | sequence => "sequence"
  | map => "map"
  | unitVariant => "unit variant"

/-- Why a text cannot be read. -/
inductive Cause where
  | endInList
  | endInObject
  | endInString
  | endInValue
  | expectedColon
  | expectedListEnd
  | expectedObjectEnd
  | expectedWord
  | expectedValue
  | invalidEscape
  | invalidNumber
  | numberOutOfRange
  | controlCharacter
  | keyNotString
  | loneSurrogate
  | halfSurrogate
  | trailingComma
  | trailingCharacters
  | tooDeep
  | invalidType (found : Found) (expected : String)
  | invalidValue (found : Found) (expected : String)
  | invalidLength (length : Nat) (expected : String)
  | missingField (name : String)
  | duplicateField (name : String)
  | unknownVariant (name : String) (known : List String)
deriving DecidableEq, Repr

/-- The three kinds of error: the text ends too early, it is no JSON, or a value does not fit. -/
inductive Category where
  | endOfText
  | notJson
  | badData
deriving DecidableEq, Repr

/-- A name between grave accents. -/
def named (name : String) : String := "\x60" ++ name ++ "\x60"

/-- The names that would have been right. -/
def oneOf : List String → String
  | [] => "there are no variants"
  | [a] => "expected " ++ named a
  | [a, b] => "expected " ++ named a ++ " or " ++ named b
  | names => "expected one of " ++ ", ".intercalate (names.map named)

namespace Cause

def category : Cause → Category
  | endInList | endInObject | endInString | endInValue => .endOfText
  | invalidType _ _ | invalidValue _ _ | invalidLength _ _ | missingField _ | duplicateField _
  | unknownVariant _ _ => .badData
  | _ => .notJson

def message : Cause → String
  | endInList => "EOF while parsing a list"
  | endInObject => "EOF while parsing an object"
  | endInString => "EOF while parsing a string"
  | endInValue => "EOF while parsing a value"
  | expectedColon => "expected \x60:\x60"
  | expectedListEnd => "expected \x60,\x60 or \x60]\x60"
  | expectedObjectEnd => "expected \x60,\x60 or \x60\x7d\x60"
  | expectedWord => "expected ident"
  | expectedValue => "expected value"
  | invalidEscape => "invalid escape"
  | invalidNumber => "invalid number"
  | numberOutOfRange => "number out of range"
  | controlCharacter => "control character (\\u0000-\\u001F) found while parsing a string"
  | keyNotString => "key must be a string"
  | loneSurrogate => "lone leading surrogate in hex escape"
  | halfSurrogate => "unexpected end of hex escape"
  | trailingComma => "trailing comma"
  | trailingCharacters => "trailing characters"
  | tooDeep => "recursion limit exceeded"
  | invalidType found expected => "invalid type: " ++ found.text ++ ", expected " ++ expected
  | invalidValue found expected => "invalid value: " ++ found.text ++ ", expected " ++ expected
  | invalidLength length expected =>
    "invalid length " ++ toString length ++ ", expected " ++ expected
  | missingField name => "missing field " ++ named name
  | duplicateField name => "duplicate field " ++ named name
  | unknownVariant name known => "unknown variant " ++ named name ++ ", " ++ oneOf known

end Cause

/-- A place in a text: its line, counted from 1, and the bytes before it on that line. -/
structure Position where
  line : Nat
  column : Nat
deriving DecidableEq, Repr

/-- The place after one more byte. -/
def Position.advance (p : Position) (byte : UInt8) : Position :=
  if byte = 10 then ⟨p.line + 1, 0⟩ else ⟨p.line, p.column + 1⟩

/-- The place after some bytes. -/
def Position.after (bytes : List UInt8) : Position :=
  bytes.foldl Position.advance ⟨1, 0⟩

/-- A cause and, where it has one, its place. -/
structure Error where
  cause : Cause
  position : Option Position
deriving DecidableEq, Repr

/-- The error in words. -/
def Error.message (e : Error) : String :=
  match e.position with
  | none => e.cause.message
  | some p =>
    e.cause.message ++ " at line " ++ toString p.line ++ " column " ++ toString p.column

end ProgramRepair.Json
