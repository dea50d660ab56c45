import ProgramRepair.Json.Reader

/-!
# Codecs

A `Codec` reads values of a type from JSON and writes them. Codecs of records
are put together from their fields: a record is written as an object and is
read from an object with its fields in any order, or from a list with its
fields in their own order. Fields that a record does not know are passed over.
-/

namespace ProgramRepair.Json

open Reader

/-- How values of a type are read and written. -/
structure Codec (α : Type) where
  read : Reader α
  write : α → Value

namespace Codec

/-! ## Simple values -/

/-- The largest number that fits in 64 bits. -/
def largestWord : Int := Nat.pow 2 64 - 1

/-- A whole number within bounds. -/
def wholeNumber (expected : String) (low high : Int) : Reader Int := placed do
  let c ← peekValue
  if c = '-' ∨ c.isDigit then
    match ← number with
    | .integer n =>
      if low ≤ n ∧ n ≤ high then return n
      else failNowhere (.invalidValue (.integer n) expected)
    | .float x => failNowhere (.invalidType (.float x) expected)
  else mismatch expected

/-- A count or place: a natural number below `2 ^ 64`. -/
def count (expected : String) : Codec Nat where
  read := Int.toNat <$> wholeNumber expected 0 largestWord
  write n := .integer n

/-- A signed number of 32 bits. -/
def code : Codec Int where
  read := wholeNumber "i32" (-(Nat.pow 2 31)) (Nat.pow 2 31 - 1)
  write n := .integer n

/-- A double. Whole numbers are read as doubles too. -/
def float : Codec Binary64 where
  read := placed do
    let c ← peekValue
    if c = '-' ∨ c.isDigit then
      match ← number with
      | .integer n => return ⟨n < 0, (Binary64.ofNat n.natAbs).magnitude⟩
      | .float x => return x
    else mismatch "f64"
  write x := if x.isFinite then .float x else .null

def boolean : Codec Bool where
  read := placed do
    match ← peekValue with
    | 't' => skip; word ['r', 'u', 'e']; return true
    | 'f' => skip; word ['a', 'l', 's', 'e']; return false
    | _ => mismatch "a boolean"
  write b := .boolean b

/-- A string that is called `expected` in messages. -/
def text (expected : String) : Codec String where
  read := placed do
    match ← peekValue with
    | '\x22' => string
    | _ => mismatch expected
  write s := .string s

/-- A value or null. -/
def option (c : Codec α) : Codec (Option α) where
  read := do
    match ← peekToken with
    | some 'n' => skip; word ['u', 'l', 'l']; return none
    | _ => some <$> c.read
  write
    | some a => c.write a
    | none => .null

/-- The items of a list, at most `fuel` of them. -/
def itemsWithin (item : Reader α) (first : Bool) : Nat → Reader (List α)
  | 0 => failHere .endInList
  | fuel + 1 => do
    if ← nextItem first then
      let a ← item
      return a :: (← itemsWithin item false fuel)
    else return []

def list (c : Codec α) : Codec (List α) where
  read := placed do
    match ← peekValue with
    | '[' =>
      skip
      let s ← get
      closedBy (itemsWithin c.read true (s.length + 1)) endList
    | _ => mismatch "a sequence"
  write items := .array (items.map c.write)

/-! ## Choices by name -/

/-- One of the given names. -/
def nameOf (known : List (String × α)) : Reader α := placed do
  match ← peekValue with
  | '\x22' =>
    let s ← string
    match known.lookup s with
    | some a => return a
    | none => failNowhere (.unknownVariant s (known.map (·.1)))
  | _ => mismatch "variant identifier"

/-- The value null. -/
def unit : Reader Unit := placed do
  match ← peekValue with
  | 'n' => skip; word ['u', 'l', 'l']
  | _ => mismatch "unit"

/-- The closing bracket of an object that holds a single choice. -/
def endChoice : Reader Unit := do
  match ← peekToken with
  | some '\x7d' => skip
  | some _ => failHere .expectedValue
  | none => failHere .endInObject

/-- A choice among names: the name alone or as the only key of an object. `alone` is the value of
a name that stands alone, and `inside` reads what belongs to the name as a key. -/
def choice (known : List (String × β)) (alone inside : β → Reader α) : Reader α := do
  match ← peekValue with
  | '\x22' => alone (← nameOf known)
  | '\x7b' =>
    skip
    if ← nextKey true then
      let b ← nameOf known
      colon
      let a ← inside b
      endChoice
      return a
    else failNext .expectedValue
  | _ => failNext .expectedValue

/-- A choice among values that have nothing but their name. -/
def names [DecidableEq α] (known : List (String × α)) : Codec α where
  read := choice known pure fun a => do unit; return a
  write a :=
    match known.find? fun entry => entry.2 = a with
    | some (name, _) => .string name
    | none => .null

end Codec

/-! ## Records -/

/-- A field of a record. -/
structure Field (α : Type) where
  name : String
  read : Reader α
  /-- The written value, or none if the field is left out. -/
  write : α → Option Value
  /-- What the field is if an object does not have it. -/
  inObject : Option α
  /-- What the field is if a list ends before it. -/
  inList : Option α

namespace Field

/-- A field that has to be there. -/
def required (name : String) (c : Codec α) : Field α :=
  ⟨name, c.read, fun a => some (c.write a), none, none⟩

/-- A field that may be null or missing in an object. -/
def optional (name : String) (c : Codec α) : Field (Option α) :=
  ⟨name, c.option.read, fun a => some (c.option.write a), some none, none⟩

/-- A field with a default. -/
def defaulted (name : String) (c : Codec α) (default : α) : Field α :=
  ⟨name, c.read, fun a => some (c.write a), some default, some default⟩

/-- A field that is left out when it has no value. -/
def omitted (name : String) (c : Codec α) : Field (Option α) :=
  ⟨name, c.option.read, fun a => a.map c.write, some none, some none⟩

end Field

/-- The fields of a record in their order; the record is the tuple of their values. -/
inductive Fields : Type → Type 1 where
  | nil : Fields Unit
  | cons {α β : Type} (field : Field α) (rest : Fields β) : Fields (α × β)

namespace Fields

/-- The values of the fields that were read so far. -/
def Slots : {τ : Type} → Fields τ → Type
  | _, nil => Unit
  | _, @cons α _ _ rest => Option α × rest.Slots

/-- No field was read yet. -/
def noSlots : {τ : Type} → (fs : Fields τ) → fs.Slots
  | _, nil => ()
  | _, cons _ rest => (none, rest.noSlots)

def count : {τ : Type} → Fields τ → Nat
  | _, nil => 0
  | _, cons _ rest => rest.count + 1

/-- Reads the value that belongs to a key, if the key is one of the fields. -/
def store : {τ : Type} → (fs : Fields τ) → String → fs.Slots → Option (Reader fs.Slots)
  | _, nil, _, _ => none
  | _, @cons α _ field rest, key, slots =>
    let (slot, slots) : Option α × rest.Slots := slots
    if key = field.name then
      some do
        if slot.isSome then failNowhere (.duplicateField key)
        colon
        let a ← field.read
        return (some a, slots)
    else (rest.store key slots).map fun r => do return (slot, ← r)

/-- The record, once the object is read. A field that is missing may have a default. -/
def finish : {τ : Type} → (fs : Fields τ) → fs.Slots → Reader τ
  | _, nil, _ => pure ()
  | _, @cons α _ field rest, slots => do
    let (slot, slots) : Option α × rest.Slots := slots
    match slot.or field.inObject with
    | some a => return (a, ← rest.finish slots)
    | none => failNowhere (.missingField field.name)

/-- Reads the keys and values of an object, at most `fuel` of them. -/
def slotsWithin (fs : Fields τ) (first : Bool) (slots : fs.Slots) : Nat → Reader fs.Slots
  | 0 => failHere .endInObject
  | fuel + 1 => do
    if ← nextKey first then
      let key ← string
      match fs.store key slots with
      | some store => slotsWithin fs false (← store) fuel
      | none => do
        colon
        skipValue
        slotsWithin fs false slots fuel
    else return slots

/-- The expected length of a list, in words. -/
def lengthText (title : String) (n : Nat) : String :=
  title ++ " with " ++ toString n ++ (if n = 1 then " element" else " elements")

/-- Reads the fields from `index` on from a list. -/
def readItems (title : String) (total : Nat) : {τ : Type} → Fields τ → (index : Nat) → Reader τ
  | _, nil, _ => pure ()
  | _, cons field rest, index => do
    if ← nextItem (index = 0) then
      let a ← field.read
      return (a, ← rest.readItems title total (index + 1))
    else
      match field.inList with
      | some a => return (a, ← rest.readItems title total (index + 1))
      | none => failNowhere (.invalidLength index (lengthText title total))

/-- Reads a record that is called `title` in messages. -/
def read (title : String) (fs : Fields τ) : Reader τ := placed do
  match ← peekValue with
  | '[' =>
    skip
    closedBy (fs.readItems title fs.count 0) endList
  | '\x7b' =>
    skip
    let s ← get
    closedBy (do fs.finish (← fs.slotsWithin true fs.noSlots (s.length + 1))) endObject
  | _ => mismatch title

/-- The written fields. -/
def write : {τ : Type} → Fields τ → τ → List (String × Value)
  | _, nil, _ => []
  | _, cons field rest, (a, b) =>
    ((field.write a).map fun v => (field.name, v)).toList ++ rest.write b

/-- The codec of a type that is made from a tuple of fields and taken apart into it. -/
def codec (title : String) (fs : Fields τ) (make : τ → α) (parts : α → τ) : Codec α where
  read := make <$> fs.read title
  write a := .object (fs.write (parts a))

end Fields

end ProgramRepair.Json
