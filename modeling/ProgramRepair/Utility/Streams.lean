import ProgramRepair.Text.CharClass
import ProgramRepair.Utility.Errand
import ProgramRepair.Utility.Input

/-!
# Programs that pass text on

Programs that read files or the standard input and print what they make of it:
all of it, a part of it, in another order, or only its size.
-/

namespace ProgramRepair.Utility

open Machine

/-! ## Copies -/

/-- Copies a descriptor to the standard output piece by piece. -/
def copyOut (program : String) (fd : Nat) : Nat → Work (Except Disk.Error Bool)
  | 0 => .forever
  | times + 1 => do
    match ← Work.call (Kernel.read fd Work.blockSize) with
    | .ok [] => return .ok true
    | .ok bytes =>
      match ← Work.write 1 bytes with
      | .ok () => copyOut program fd times
      | .error e =>
        warn program ("write error: " ++ e.systemText)
        return .ok false
    | .error e => return .error e

/-- Copies files one after the other; the exit code of what was done before is `code`. -/
def catFiles (cwd : Place) (code : Nat) : List (List Char) → Work Nat
  | [] => return code
  | path :: rest => do
    let copy := fun (fd : Nat) => do
      if ← Work.call (Kernel.feedsItself fd 1) then
        warn "cat" (named path ++ ": input file is output file")
        return .ok none
      else return (← copyOut "cat" fd Work.patience).map some
    let r ← if path = ['-'] then copy 0 else withFile cwd path .reading copy
    match r with
    | .ok none => catFiles cwd 1 rest
    | .ok (some true) => catFiles cwd code rest
    | .ok (some false) => return 1
    | .error e =>
      warn "cat" (named path ++ ": " ++ e.systemText)
      let code ← catFiles cwd 1 rest
      if path = ['-'] ∧ e = .badDescriptor then
        warn "cat" ("closing standard input: " ++ e.systemText)
      return code

/-- A character in signs that can be seen. -/
def visible (c : Char) : List Char :=
  let (lead, n) := if 128 ≤ c.toNat then (['M', '-'], c.toNat - 128) else ([], c.toNat)
  if n < 32 then lead ++ ['^', Char.ofNat (n + 64)]
  else if n = 127 then lead ++ ['^', '?']
  else lead ++ [Char.ofNat n]

/-- A line, which ends with a line break if `complete` says so, in signs that can be seen. -/
def visibleLine (o : Options) (complete : Bool) (line : List Char) : List Char :=
  let all := o.has 'A'
  let signs := all || o.has 'v' || o.has 'e' || o.has 't'
  let text := line.flatMap fun c =>
    if c = '\t' then (if all || o.has 'T' || o.has 't' then ['^', 'I'] else [c])
    else if signs then visible c
    else [c]
  let lineEnd := if all || o.has 'E' || o.has 'e' then ['$'] else []
  text ++ (if complete then lineEnd ++ ['\n'] else [])

/-- What becomes of one line. The state is whether an empty line came last, and the next number. -/
def dressLine (o : Options) (complete : Bool) (s : Bool × Nat) (line : List Char) :
    List Char × Bool × Nat :=
  let (afterEmpty, n) := s
  let empty := line.isEmpty
  if o.has 's' && empty && afterEmpty then ([], true, n)
  else
    let hasNumber := if o.has 'b' then !empty else o.has 'n'
    let lead := if hasNumber then padLeft 6 (digits n) ++ ['\t'] else []
    (lead ++ visibleLine o complete line, empty, if hasNumber then n + 1 else n)

def catGrammar : Grammar :=
  ⟨"AbeEnstTuv", "", "", [("show-all", 'A'), ("number-nonblank", 'b'), ("show-ends", 'E'),
    ("number", 'n'), ("squeeze-blank", 's'), ("show-tabs", 'T'), ("show-nonprinting", 'v')]⟩

/-- Prints files one after the other. -/
def cat : Utility := fun env args => do
  let o := catGrammar.read args
  match o.problem with
  | some problem => refuse "cat" problem 1
  | none =>
    if o.letters.all (· = 'u') then catFiles env.cwd 0 (if o.rest.isEmpty then [['-']] else o.rest)
    else
      (Filter.ofLines '\n' true (false, 1) (dressLine o)).run "cat" env.cwd o.rest

/-- How much of a text is wanted. -/
structure Extent where
  count : Nat
  /-- Whether bytes are counted and not lines. -/
  bytes : Bool
  /-- Whether `count` says where the text begins or ends from the other side. -/
  turned : Bool
  /-- The character at the end of a line. -/
  lineEnd : Char

/-- The lines of a text without their ends. -/
def linesBy (lineEnd : Char) (text : List Char) : List (List Char) :=
  match (Text.cut lineEnd text).reverse with
  | [] :: rest => rest.reverse
  | all => all.reverse

/-- Lines with an end after each. -/
def unlinesBy (lineEnd : Char) (lines : List (List Char)) : List Char :=
  lines.flatMap (· ++ [lineEnd])

/-- The first lines of a text. -/
def takeLines (lineEnd : Char) (n : Nat) (text : List Char) : List Char :=
  let lines := Text.cut lineEnd text
  if lines.length ≤ n then text else unlinesBy lineEnd (lines.take n)

/-- The text without its first lines. -/
def dropLines (lineEnd : Char) : Nat → List Char → List Char
  | 0, text => text
  | _ + 1, [] => []
  | n + 1, text => dropLines lineEnd n ((text.dropWhile (· ≠ lineEnd)).drop 1)

/-- The number of lines; a last line without an end counts too. -/
def lineCount (lineEnd : Char) (text : List Char) : Nat := (linesBy lineEnd text).length

/-- The start of a text. -/
def headOf (e : Extent) (text : List Char) : List Char :=
  match e.bytes, e.turned with
  | true, false => text.take e.count
  | true, true => text.take (text.length - e.count)
  | false, false => takeLines e.lineEnd e.count text
  | false, true => takeLines e.lineEnd (lineCount e.lineEnd text - e.count) text

/-- The end of a text. -/
def tailOf (e : Extent) (text : List Char) : List Char :=
  match e.bytes, e.turned with
  | true, false => text.drop (text.length - e.count)
  | true, true => text.drop (e.count - 1)
  | false, false => dropLines e.lineEnd (lineCount e.lineEnd text - e.count) text
  | false, true => dropLines e.lineEnd (e.count - 1) text

/-- The extent that a number with or without a sign stands for; the sign `turn` turns it round. -/
def extent? (turn : Char) (bytes : Bool) (lineEnd : Char) (s : List Char) : Option Extent :=
  match s with
  | c :: ds =>
    if c = turn then (sized? ds).map fun n => ⟨n, bytes, true, lineEnd⟩
    else if c = '+' ∨ c = '-' then (sized? ds).map fun n => ⟨n, bytes, false, lineEnd⟩
    else (sized? s).map fun n => ⟨n, bytes, false, lineEnd⟩
  | [] => none

/-- Replaces an argument such as `-5` in front by the option that it stands for. With `signed` it may
have a plus sign instead. -/
def oldCount (signed : Bool) : List (List Char) → List (List Char)
  | (sign :: d :: ds) :: rest =>
    let count := (d :: ds).takeWhile Char.isDigit
    let letters := (d :: ds).drop count.length
    if !count.isEmpty ∧ (sign = '-' ∨ (signed ∧ sign = '+')) ∧ letters.all "lcqvbkm".toList.contains then
      let count := if sign = '+' then '+' :: count else count
      let factor := letters.filter "bkm".toList.contains
      let option := if letters.contains 'c' ∨ !factor.isEmpty then 'c' else 'n'
      let others := (letters.filter "qv".toList.contains).map fun c => ['-', c]
      others ++ ['-', option] :: (count ++ factor.map fun c => if c = 'm' then 'M' else c) :: rest
    else (sign :: d :: ds) :: rest
  | args => args

/-- What is printed in front of the part of a file. -/
def partTitle (titles first : Bool) (path : List Char) : List Char :=
  let name := if path = ['-'] then "standard input".toList else path
  if titles then (if first then [] else ['\n']) ++ "==> ".toList ++ name ++ " <==\n".toList else []

/-- Prints parts of files, with a title for each if there are several. `part` prints the part of the
file behind a descriptor and says whether that was possible. -/
def printParts (program : String) (cwd : Place) (part : Nat → Work (Except Disk.Error Bool))
    (titles : Bool) (first : Bool) (code : Nat) : List (List Char) → Work Nat
  | [] => return code
  | path :: rest => do
    let titled : Nat → Work (Except Disk.Error (Except Disk.Error Bool)) := fun fd => do
      if ← tryPut program (partTitle titles first path) then return .ok (← part fd)
      else return .ok (.ok false)
    match ← if path = ['-'] then titled 0 else withFile cwd path .reading titled with
    | .ok (.ok true) => printParts program cwd part titles false code rest
    | .ok (.ok false) => return 1
    | .ok (.error e) =>
      warn program ("error reading " ++ inQuotes path ++ ": " ++ e.systemText)
      printParts program cwd part titles false 1 rest
    | .error e =>
      warn program ("cannot open " ++ inQuotes path ++ " for reading: " ++ e.systemText)
      printParts program cwd part titles first 1 rest

/-- The extent that the options of a call ask for: the last one that does counts. -/
def extentOf? (turn : Char) (o : Options) : Option Extent :=
  let lineEnd := if o.has 'z' then '\x00' else '\n'
  match o.values.find? fun (c, _) => c = 'c' ∨ c = 'n' with
  | some (c, s) => extent? turn (c = 'c') lineEnd s
  | none => some ⟨10, false, false, lineEnd⟩

/-- Complains about a number in an option. -/
def refuseCount (program : String) (o : Options) : Work Nat := do
  match o.values.find? fun (c, _) => c = 'c' ∨ c = 'n' with
  | some (c, s) =>
    let what := if c = 'c' then "bytes" else "lines"
    let sign := fun c => c = '-' || c = '+'
    let s := if s.head?.any sign ∧ program = "head" then s.drop 1 else s
    warn program ("invalid number of " ++ what ++ ": " ++ quoted s)
    return 1
  | none => return 1

/-- Whether parts of several files get titles. -/
def isTitled (o : Options) (paths : List (List Char)) : Bool :=
  match o.letters.find? fun c => c = 'q' ∨ c = 'v' with
  | some c => c = 'v'
  | none => 1 < paths.length

def headGrammar : Grammar :=
  ⟨"qvz", "nc", "", [("lines=", 'n'), ("bytes=", 'c'), ("quiet", 'q'), ("silent", 'q'),
    ("verbose", 'v'), ("zero-terminated", 'z')]⟩

/-- Prints the start of files. -/
def head : Utility := fun env args => do
  let o := headGrammar.read (oldCount false args)
  match o.problem, extentOf? '-' o with
  | some problem, _ => refuse "head" problem 1
  | none, none => refuseCount "head" o
  | none, some e =>
    let demand : Demand :=
      if e.turned then .all
      else if e.bytes then .bytes e.count
      else if o.has 'z' then .all
      else .lines e.count
    let part := fun fd => do
      match ← readDemand fd demand [] 0 0 Work.patience with
      | .error e => return .error e
      | .ok text =>
        let start := headOf e text
        Work.call (Kernel.unread fd (text.length - start.length))
        return .ok (← tryPut "head" start)
    let paths := if o.rest.isEmpty then [['-']] else o.rest
    printParts "head" env.cwd part (isTitled o paths) true 0 paths

/-- The filter that leaves out the start of a text. Its state is what is still to be left out: bytes
or lines. -/
def skipFilter (e : Extent) : Filter Nat :=
  let piece := fun (n : Nat) (text : List Char) =>
    if e.bytes then (text.drop n, n - text.length)
    else (dropLines e.lineEnd n text, n - text.count e.lineEnd)
  Filter.ofPieces (e.count - 1) piece fun _ => []

/-- Reads all that is to come and keeps what can belong to its end. What is too much is let go
whenever there is more than `limit`. -/
def readEnd (fd : Nat) (e : Extent) (before : List Bytes) (size limit : Nat) :
    Nat → Work (Except Disk.Error (List Char))
  | 0 => .forever
  | times + 1 => do
    match ← Work.call (Kernel.read fd Work.blockSize) with
    | .ok [] => return .ok (tailOf e (textOf before))
    | .ok bytes =>
      if size ≤ limit then
        readEnd fd e (bytes :: before) (size + bytes.length) limit times
      else
        let kept := Text.bytesOfChars (tailOf e (textOf (bytes :: before)))
        readEnd fd e [kept] kept.length (max limit (2 * kept.length)) times
    | .error e => return .error e

/-- The number of bytes that are kept in any case. -/
def keptBytes : Nat := 200000

def tailGrammar : Grammar :=
  ⟨"qfFvz", "ncs", "", [("lines=", 'n'), ("bytes=", 'c'), ("quiet", 'q'), ("silent", 'q'),
    ("verbose", 'v'), ("zero-terminated", 'z'), ("follow?", 'f'), ("retry", 'r'), ("pid=", 'p'),
    ("sleep-interval=", 's')]⟩

/-- Prints the end of files. With `-f` it then waits for more. -/
def tail : Utility := fun env args => do
  let o := tailGrammar.read (oldCount true args)
  match o.problem, extentOf? '+' o with
  | some problem, _ => refuse "tail" problem 1
  | none, none => refuseCount "tail" o
  | none, some e =>
    let part := fun fd => do
      if e.turned then
        let f := skipFilter e
        return (← f.feed "tail" fd f.start Work.patience).map Option.isSome
      else
        match ← readEnd fd e [] 0 keptBytes Work.patience with
        | .error e => return .error e
        | .ok text => return .ok (← tryPut "tail" text)
    let paths := if o.rest.isEmpty then [['-']] else o.rest
    let code ← printParts "tail" env.cwd part (isTitled o paths) true 0 paths
    if (o.has 'f' ∨ o.has 'F') ∧ code = 0 then Work.forever else return code

/-- Copies the standard input to the standard output and to descriptors, piece by piece. -/
def teeLoop (fds : List Nat) : Nat → Work Nat
  | 0 => .forever
  | times + 1 => do
    match ← Work.call (Kernel.read 0 Work.blockSize) with
    | .ok [] => return 0
    | .ok bytes =>
      fds.forM fun fd => discard <| Work.write fd bytes
      teeLoop fds times
    | .error _ => return 1

/-- Opens files for writing; complains about those that cannot be opened. -/
def openAll (program : String) (cwd : Place) (mode : Kernel.Mode) :
    List (List Char) → Work (List Nat × Nat)
  | [] => return ([], 0)
  | path :: rest => do
    match ← Work.openFile cwd (shown path) mode with
    | .ok fd =>
      let (fds, code) ← openAll program cwd mode rest
      return (fd :: fds, code)
    | .error e =>
      warn program (named path ++ ": " ++ e.systemText)
      let (fds, _) ← openAll program cwd mode rest
      return (fds, 1)

def teeGrammar : Grammar :=
  ⟨"aip", "", "", [("append", 'a'), ("ignore-interrupts", 'i'), ("output-error?", 'p')]⟩

/-- Copies the standard input to the standard output and to files. -/
def tee : Utility := fun env args => do
  let o := teeGrammar.read args
  match o.problem with
  | some problem => refuse "tee" problem 1
  | none =>
    let (fds, code) ← openAll "tee" env.cwd (if o.has 'a' then .appending else .writing) o.rest
    let copied ← teeLoop (1 :: fds) Work.patience
    return max code copied

/-- Prints a line again and again. -/
def yesLoop (block : Bytes) : Nat → Work Nat
  | 0 => .forever
  | times + 1 => do
    match ← Work.write 1 block with
    | .ok () => yesLoop block times
    | .error e =>
      warn "yes" ("standard output: " ++ e.systemText)
      return 1

/-- Prints a line without end. -/
def yes : Utility := fun _ args =>
  let line := if args.isEmpty then ['y'] else List.flatten (args.intersperse [' '])
  let block := List.flatten (List.replicate (2048 / (line.length + 1) + 1) (line ++ ['\n']))
  yesLoop (Text.bytesOfChars block) Work.patience

/-! ## Sizes -/

/-- The sizes of a text. -/
structure Sizes where
  lines : Nat
  words : Nat
  bytes : Nat
  /-- The columns of the widest line. -/
  width : Nat

/-- The number of words of a text: of the places where one begins. -/
def wordCount (text : List Char) : Nat :=
  (text.foldl (fun (count, inside) c =>
    if Text.isSpaceChar c then (count, false)
    else if inside then (count, true)
    else (count + 1, true)) (0, false)).1

/-- The columns of the widest line of a text, with tabs that lead to the next multiple of eight. -/
def widest (text : List Char) : Nat :=
  let step := fun (state : Nat × Nat) (c : Char) =>
    let (best, here) := state
    if c = '\n' ∨ c = '\x0d' ∨ c = '\x0c' then (max best here, 0)
    else if c = '\t' then (best, here + 8 - here % 8)
    else if ' ' ≤ c ∧ c ≤ '~' then (best, here + 1)
    else (best, here)
  let (best, here) := text.foldl step (0, 0)
  max best here

/-- The sizes of a text. Single bytes count as characters. -/
def sizesOf (text : List Char) : Sizes where
  lines := text.count '\n'
  words := wordCount text
  bytes := text.length
  width := widest text

/-- The sizes of two texts together. -/
def Sizes.add (a b : Sizes) : Sizes :=
  ⟨a.lines + b.lines, a.words + b.words, a.bytes + b.bytes, max a.width b.width⟩

/-- The sizes that are asked for, in their usual order. -/
def Sizes.columns (s : Sizes) (o : Options) : List Nat :=
  let all := !(o.has 'l' || o.has 'w' || o.has 'c' || o.has 'm' || o.has 'L')
  (if all || o.has 'l' then [s.lines] else []) ++ (if all || o.has 'w' then [s.words] else []) ++
    (if o.has 'm' then [s.bytes] else []) ++ (if all || o.has 'c' then [s.bytes] else []) ++
    (if o.has 'L' then [s.width] else [])

/-- A line of sizes. -/
def sizesLine (width : Nat) (columns : List Nat) (name : List Char) : List Char :=
  let numbers := columns.map fun n => padLeft width (digits n)
  List.flatten (numbers.intersperse [' ']) ++ (if name.isEmpty then [] else ' ' :: name) ++ ['\n']

/-- Whether the size of what a path or the standard input holds can be known beforehand, or there is
nothing to know. -/
def hasSize (cwd : Place) (path : List Char) : Work Bool :=
  if path = ['-'] then
    .call fun pid k =>
      some (match k.channelOf pid 0 with
        | some (_, .file _ _) => true
        | _ => false, k)
  else
    .call <| Kernel.askDisk fun d =>
      match d.find cwd (shown path) with
      | .ok (_, e) => e.isFile
      | .error _ => true

def wcGrammar : Grammar :=
  ⟨"lwcmL", "", "", [("lines", 'l'), ("words", 'w'), ("bytes", 'c'), ("chars", 'm'),
    ("max-line-length", 'L'), ("total=", '='), ("files0-from=", '0')]⟩

/-- Counts lines, words and bytes. -/
def wc : Utility := fun env args => do
  let o := wcGrammar.read args
  match o.problem with
  | some problem => refuse "wc" problem 1
  | none =>
    let paths := if o.rest.isEmpty then [['-']] else o.rest
    let (sizes, code) ← measure env.cwd paths
    let known ← paths.allM (hasSize env.cwd)
    let total : Sizes := (sizes.map (·.2)).foldl Sizes.add ⟨0, 0, 0, 0⟩
    let width :=
      if paths.length = 1 ∧ (total.columns o).length = 1 then 1
      else max (digits total.bytes).length (if known then 1 else 7)
    let lines := sizes.map fun (name, s) =>
      sizesLine width (s.columns o) (if o.rest.isEmpty then [] else name)
    let last := if 1 < paths.length then sizesLine width (total.columns o) "total".toList else []
    emit "wc" (lines.flatten ++ last) code
where
  /-- The sizes of all inputs that there are. -/
  measure (cwd : Place) : List (List Char) → Work (List (List Char × Sizes) × Nat)
    | [] => return ([], 0)
    | path :: rest => do
      let r ← contents cwd path
      match r with
      | .ok _ => pure ()
      | .error e => warn "wc" (named path ++ ": " ++ e.systemText)
      let (others, code) ← measure cwd rest
      match r with
      | .ok text => return ((path, sizesOf text) :: others, code)
      | .error .isDirectory => return ((path, ⟨0, 0, 0, 0⟩) :: others, 1)
      | .error _ => return (others, 1)

/-! ## Lines turned round -/

/-- The pieces of a text, each of which ends with a separator, or begins with one if `before` says
so. -/
def piecesBy (before : Bool) (separator : List Char) :
    Nat → (piece : List Char) → List Char → List (List Char)
  | 0, piece, rest => [piece.reverse ++ rest]
  | _ + 1, piece, [] => if piece.isEmpty then [] else [piece.reverse]
  | fuel + 1, piece, c :: s =>
    if !separator.isEmpty ∧ separator.isPrefixOf (c :: s) then
      let rest := (c :: s).drop separator.length
      if before then
        (if piece.isEmpty then [] else [piece.reverse]) ++
          piecesBy before separator fuel separator.reverse rest
      else (piece.reverse ++ separator) :: piecesBy before separator fuel [] rest
    else piecesBy before separator fuel (c :: piece) s

def tacGrammar : Grammar :=
  ⟨"br", "s", "", [("before", 'b'), ("regex", 'r'), ("separator=", 's')]⟩

/-- Prints each file with its lines in reverse order. -/
def tac : Utility := fun env args => do
  let o := tacGrammar.read args
  match o.problem with
  | some problem => refuse "tac" problem 1
  | none =>
    let separator := (o.value? 's').getD ['\n']
    let turned := fun (text : List Char) =>
      ((piecesBy (o.has 'b') separator (text.length + 1) [] text).reverse).flatten
    go turned env.cwd 0 (if o.rest.isEmpty then [['-']] else o.rest)
where
  /-- Prints one file after the other. -/
  go (turned : List Char → List Char) (cwd : Place) (code : Nat) : List (List Char) → Work Nat
    | [] => return code
    | path :: rest => do
      match ← contents cwd path with
      | .ok text =>
        let code ← emit "tac" (turned text) code
        go turned cwd code rest
      | .error .isDirectory =>
        warn "tac" (named path ++ ": read error: Is a directory")
        go turned cwd 1 rest
      | .error e =>
        warn "tac" ("failed to open " ++ inQuotes path ++ " for reading: " ++ e.systemText)
        go turned cwd 1 rest

/-- The filter that turns each line round. -/
def turnFilter : Filter (Unit × List (List Char)) :=
  Filter.ofLines '\n' false () fun complete _ line =>
    (line.reverse ++ (if complete then ['\n'] else []), ())

/-- Prints each line from its end. -/
def rev : Utility := fun env args =>
  let blame := fun (path : List Char) (e : Disk.Error) =>
    "cannot open " ++ shown path ++ ": " ++ e.systemText
  turnFilter.feedAll "rev" blame env.cwd 0 ((), []) (if args.isEmpty then [['-']] else args)

end ProgramRepair.Utility
