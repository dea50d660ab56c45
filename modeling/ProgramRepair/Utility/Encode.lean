import ProgramRepair.Utility.Input

/-!
# Bytes as letters

Bytes are written with the letters of an alphabet that stand for a few bits each. Groups
of letters stand for whole bytes, and the last group is filled up with equal signs.
-/

namespace ProgramRepair.Utility

open Machine

/-- A way to write bytes as letters. -/
structure Lettering where
  alphabet : List Char
  /-- The bits of a letter. -/
  bits : Nat
  /-- The letters of a group. -/
  group : Nat
  /-- Whether the bytes of a group that is cut off are there all the same. -/
  keepsRest : Bool

namespace Lettering

def base64 : Lettering :=
  ⟨"ABCDEFGHIJKLMNOPQRSTUVWXYZabcdefghijklmnopqrstuvwxyz0123456789+/".toList, 6, 4, true⟩

def base32 : Lettering := ⟨"ABCDEFGHIJKLMNOPQRSTUVWXYZ234567".toList, 5, 8, false⟩

/-- The bytes of a group. -/
def groupBytes (l : Lettering) : Nat := l.bits * l.group / 8

/-- The letters of at most a group of bytes. -/
def encodeGroup (l : Lettering) (bytes : Bytes) : List Char :=
  let n := bytes.foldl (fun n b => 256 * n + b.toNat) 0
  let n := n <<< (8 * (l.groupBytes - bytes.length))
  let used := (8 * bytes.length + l.bits - 1) / l.bits
  (List.range l.group).map fun i =>
    if i < used then
      (l.alphabet[(n >>> (l.bits * (l.group - 1 - i))) % (1 <<< l.bits)]?).getD '='
    else '='

/-- The letters of some bytes. -/
def encode (l : Lettering) : (fuel : Nat) → Bytes → List Char
  | 0, _ => []
  | fuel + 1, bytes =>
    if bytes.isEmpty then []
    else l.encodeGroup (bytes.take l.groupBytes) ++ l.encode fuel (bytes.drop l.groupBytes)

/-- What a letter stands for. -/
def value? (l : Lettering) (c : Char) : Option Nat := l.alphabet.findIdx? (· = c)

/-- The bytes of a group, and whether it is a whole one. Before a letter that makes no sense there
may be bytes all the same. -/
def decodeGroup (l : Lettering) (group : List Char) : Bytes × Bool :=
  let values := (group.map l.value?).takeWhile Option.isSome |>.filterMap id
  let count := values.length * l.bits / 8
  let n := values.foldl (fun n v => n <<< l.bits + v) 0
  let n := n >>> (values.length * l.bits - 8 * count)
  let bytes := (List.range count).reverse.map fun i => UInt8.ofNat (n >>> (8 * i))
  let isWhole := group.length = l.group ∧ (group.drop values.length).all (· = '=') ∧
    (List.range (l.groupBytes + 1)).any fun k => k ≠ 0 ∧ (8 * k + l.bits - 1) / l.bits = values.length
  (if isWhole ∨ l.keepsRest ∨ group.length = l.group then bytes else [], isWhole)

/-- The bytes that letters stand for, up to the first group that makes no sense, and whether all of
them do. -/
def decode (l : Lettering) : (fuel : Nat) → List Char → Bytes × Bool
  | 0, _ => ([], true)
  | fuel + 1, s =>
    if s.isEmpty then ([], true)
    else
      match l.decodeGroup (s.take l.group) with
      | (bytes, false) => (bytes, false)
      | (bytes, true) =>
        let (more, good) := l.decode fuel (s.drop l.group)
        (bytes ++ more, good)

end Lettering

/-- A text in lines of some length, behind `column` characters of one. A line is ended before the
next begins. -/
def wrapFrom (width : Nat) : (column : Nat) → List Char → List Char × Nat
  | column, [] => ([], column)
  | column, c :: s =>
    if column = width then
      let (text, last) := wrapFrom width 1 s
      ('\n' :: c :: text, last)
    else
      let (text, last) := wrapFrom width (column + 1) s
      (c :: text, last)

/-- The filter that writes bytes as letters in lines of some length; of length zero for a single
line without an end. Its state is the bytes of a group that has begun, and the length of the
line. -/
def Lettering.filter (l : Lettering) (width : Nat) : Filter (Bytes × Nat) :=
  let put := fun (column : Nat) (letters : List Char) =>
    if width = 0 then (letters, 0) else wrapFrom width column letters
  Filter.ofPieces ([], 0)
    (fun (left, column) text =>
      let bytes := left ++ Text.bytesOfChars text
      let whole := bytes.length - bytes.length % l.groupBytes
      let (text, column) := put column (l.encode (whole + 1) (bytes.take whole))
      (text, (bytes.drop whole, column)))
    (fun (left, column) =>
      let (text, column) := put column (l.encode (left.length + 1) left)
      text ++ (if column = 0 then [] else ['\n']))

def encodeGrammar : Grammar :=
  ⟨"di", "w", "", [("decode", 'd'), ("ignore-garbage", 'i'), ("wrap=", 'w')]⟩

/-- Writes bytes as letters or the other way round. -/
def encodeProgram (program : String) (l : Lettering) : Utility := fun env args => do
  let o := encodeGrammar.read args
  let width := match o.value? 'w' with
    | none => some 76
    | some s => natural? s
  match o.problem, width, o.rest with
  | some problem, _, _ => refuse program problem 1
  | none, none, _ =>
    warn program ("invalid wrap size: " ++ quoted ((o.value? 'w').getD []))
    return 1
  | none, some _, _ :: extra :: _ => refuse program ("extra operand " ++ quoted extra) 1
  | none, some width, paths =>
    let path := paths.head?.getD ['-']
    let blame := fun (path : List Char) (e : Disk.Error) =>
      if e = .isDirectory then "read error: " ++ e.systemText else Filter.usualBlame path e
    if !o.has 'd' then (l.filter width).feedAll program blame env.cwd 0 ([], 0) [path]
    else
      match ← contents env.cwd path with
      | .error e =>
        warn program (blame path e)
        return 1
      | .ok text =>
        let letters := text.filter fun c =>
          if o.has 'i' then c = '=' || l.alphabet.contains c else c ≠ '\n'
        let (bytes, good) := l.decode (letters.length + 1) letters
        let code ← emit program (Text.charsOfBytes bytes) 0
        if good then return code
        else
          warn program "invalid input"
          return 1

end ProgramRepair.Utility
