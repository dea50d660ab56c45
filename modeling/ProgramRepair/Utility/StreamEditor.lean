import ProgramRepair.Utility.Streams
import ProgramRepair.Utility.StreamEditor.Editor

/-!
# Editing a stream of lines

`sed` gives an editor the lines of its inputs as they are asked for, and sees to
it that what the editor says reaches the output, other files, or the place of the
input itself.
-/

namespace ProgramRepair.Utility

open Machine StreamEditor

namespace StreamEditor

/-- Where the lines come from and where they go. -/
structure Desk where
  cwd : Place
  editor : Editor
  /-- The inputs that were not opened yet. -/
  paths : List (List Char)
  /-- The input that is open, and its descriptor. -/
  source : Option (List Char × Nat)
  /-- What was read behind the last line break. -/
  tail : List Char
  /-- The descriptors of the files that are written to. -/
  outlets : List (List Char × Nat)
  /-- What was not printed yet, in reverse order. -/
  waiting : List (List Char)
  /-- The number of characters that are read at a time. -/
  block : Nat
  /-- Whether each input is a stream of its own. -/
  separate : Bool
  /-- The form of the names that inputs keep when the output takes their place. -/
  inPlace : Option (List Char)
  code : Nat

/-- The exit code when an input cannot be read. -/
def badInputCode : Nat := 2

/-- The exit code when the work cannot go on. -/
def panicCode : Nat := 4

namespace Desk

/-! ## Output -/

/-- Complains, and gives up. -/
def giveUp (message : String) : Work Nat := do
  warn "sed" message
  return panicCode

/-- Prints what is waiting. -/
def flush (d : Desk) : Work (Except String Desk) := do
  let text := d.waiting.reverse.flatten
  let r ← if text.isEmpty then pure (.ok ()) else put text
  return match r with
    | .ok () => .ok { d with waiting := [] }
    | .error e => .error ("couldn't flush stdout: " ++ e.systemText)

/-- Prints something. -/
def deliver (d : Desk) : List Emission → Work Desk
  | [] => return d
  | m :: rest =>
    match m with
    | .printed text => deliver { d with waiting := text :: d.waiting } rest
    | .copied path => do
      match ← contents d.cwd (if path = "/dev/stdin".toList then ['-'] else path) with
      | .ok text => deliver { d with waiting := text :: d.waiting } rest
      | .error _ => deliver d rest
    | .saved path text => do
      if path = "/dev/stdout".toList ∧ d.inPlace.isNone then
        deliver { d with waiting := text :: d.waiting } rest
      else
        match d.outlets.lookup path with
        | some fd => discard <| Work.write fd (Text.bytesOfChars text)
        | none => pure ()
        deliver d rest

/-- Prints what the editor has ready. With `all` nothing of it is left waiting. -/
def settle (d : Desk) (all : Bool) : Work (Except String Desk) := do
  let d ← { d with editor := { d.editor with output := [] } }.deliver d.editor.output.reverse
  let size := d.waiting.foldl (fun n text => n + text.length) 0
  if d.inPlace.isNone ∧ (all ∨ Kernel.pieceSize ≤ size) then d.flush else return .ok d

/-! ## Input -/

/-- Gives the editor the lines of a text. -/
def feed (d : Desk) (name text : List Char) : Desk :=
  match (Text.cut d.editor.mark (d.tail ++ text)).reverse with
  | [] => d
  | tail :: lines =>
    let lines := lines.reverse.map fun s => (⟨s, true⟩, name)
    { d with tail, editor := { d.editor with input := d.editor.input ++ lines } }

/-- Gives the editor the last line of an input, which has no line break. -/
def feedTail (d : Desk) (name : List Char) : Desk :=
  let lines := if d.tail.isEmpty then [] else [(⟨d.tail, false⟩, name)]
  { d with tail := [], editor := { d.editor with input := d.editor.input ++ lines } }

/-- Whether a path can be edited in place, and if not, why. -/
def obstacle? (d : Desk) (path : List Char) : Call (Option String) := fun _ k =>
  match k.disk.find d.cwd (shown path) with
  | .ok (_, .file _ _) => some (none, k)
  | .ok _ => some (some ("couldn't edit " ++ shown path ++ ": not a regular file"), k)
  | .error _ => some (none, k)

/-- Opens the next input that can be opened. -/
def openNext (d : Desk) : List (List Char) → Work Desk
  | [] => return { d with paths := [], source := none, editor := { d.editor with ended := true } }
  | path :: rest => do
    let d := { d with paths := rest }
    if path = ['-'] ∧ d.inPlace.isNone then return { d with source := some (path, 0) }
    else
      let obstacle ← if d.inPlace.isSome then .call (d.obstacle? path) else pure none
      match obstacle with
      | some message =>
        warn "sed" message
        { d with code := panicCode }.openNext rest
      | none =>
        match ← Work.openFile d.cwd (shown path) .reading with
        | .ok fd => return { d with source := some (path, fd) }
        | .error e =>
          warn "sed" ("can't read " ++ shown path ++ ": " ++ e.systemText)
          { d with code := badInputCode }.openNext rest

/-- Reads more. The descriptor of an input that has ended is closed. -/
def more (d : Desk) : Work (Except String Desk) := do
  match d.source with
  | none => return .ok (← d.openNext d.paths)
  | some (name, fd) =>
    match ← .call (Kernel.read fd d.block) with
    | .ok [] =>
      if fd ≠ 0 then .call (Kernel.close fd)
      let d := { d.feedTail name with source := none }
      return .ok { d with editor := { d.editor with ended := d.separate || d.paths.isEmpty } }
    | .ok bytes => return .ok (d.feed name (Text.charsOfBytes bytes))
    | .error e =>
      let name := if name = ['-'] then "stdin" else shown name
      return .error ("read error on " ++ name ++ ": " ++ e.systemText)

/-- Leaves what the editor did not use to others that read the same input. -/
def leaveRest (d : Desk) : Work Unit := do
  match d.source with
  | none => return ()
  | some (_, fd) =>
    let size := d.editor.input.foldl (fun n (line, _) =>
      n + line.text.length + (if line.complete then 1 else 0)) d.tail.length
    .call (Kernel.unread fd size)

/-! ## Editing in place -/

/-- The name that an input keeps: each star of the form stands for the path. -/
def backupName (form path : List Char) : List Char :=
  form.flatMap fun c => if c = '*' then path else [c]

/-- Puts the output in the place of an input. -/
def replace (d : Desk) (form path : List Char) : Work (Except String Desk) := do
  let bytes := Text.bytesOfChars d.waiting.reverse.flatten
  let backup := backupName form path
  let r ← Work.call (Kernel.changeDisk fun disk => do
    let (place, entry) ← disk.findEntry d.cwd (shown path)
    let (_, target) ← disk.find d.cwd (shown path)
    let a := target.attributes?.getD (disk.newAttributes Disk.fileMode)
    let disk ←
      if backup = path then pure disk
      else
        let kept ← disk.resolveEntry d.cwd (shown backup)
        disk.demandNames kept
        pure (disk.put kept entry)
    return disk.put place (.file bytes { a with changed := disk.stamp, number := none }))
  return match r with
    | .ok () => .ok { d with waiting := [] }
    | .error e => .error ("cannot rename " ++ shown path ++ ": " ++ e.systemText)

/-- Finishes the input that was edited last. -/
def finishInput (d : Desk) (path : Option (List Char)) : Work (Except String Desk) := do
  match d.inPlace, path with
  | some form, some path => d.replace form path
  | _, _ => return .ok d

/-! ## The work as a whole -/

/-- The number of steps of an editor without a pause. -/
def spurt : Nat := 20000

/-- The time that they take. -/
def spurtTime : Nat := 20000000

/-- Edits until the editor stops or the inputs have ended; `path` is the input that is being
edited. -/
def work (path : Option (List Char)) (d : Desk) : Nat → Work Nat
  | 0 => .forever
  | times + 1 => do
    let (editor, halt) := d.editor.run spurt
    let isOver : Bool := match halt with
      | .stopped _ | .noExpression => true
      | .finished => d.paths.isEmpty
      | _ => false
    match ← { d with editor }.settle (isOver || d.block = 1) with
    | .error message => giveUp message
    | .ok d =>
      match halt with
      | .exhausted =>
        .sleep spurtTime
        work path d times
      | .starved =>
        match ← d.more with
        | .error message =>
          match ← d.flush with
          | .error message => giveUp message
          | .ok _ => giveUp message
        | .ok d => work ((d.source.map (·.1)) <|> path) d times
      | .noExpression =>
        warn "sed" "-e expression #1, char 0: no previous regular expression"
        return 1
      | .stopped code =>
        d.leaveRest
        match ← d.finishInput path with
        | .error message => giveUp message
        | .ok d => return if d.code = 0 then code else d.code
      | .finished =>
        match ← d.finishInput path with
        | .error message => giveUp message
        | .ok d =>
          if d.paths.isEmpty then return d.code
          else
            let broken := d.editor.broken.filter fun target => d.inPlace.isNone || target.isSome
            work none { d with editor := { d.editor.beginFile with broken } } times

end Desk

/-! ## Scripts in files -/

/-- The pieces of a script that options name, or what is wrong. -/
def scriptPieces (cwd : Place) (number : Nat) :
    List (Char × List Char) → Work (Except String (List ScriptPiece))
  | [] => return .ok []
  | ('e', text) :: rest =>
    return (← scriptPieces cwd (number + 1) rest).map (⟨.argument number, text⟩ :: ·)
  | (_, path) :: rest => do
    match ← contents cwd path with
    | .error e => return .error ("couldn't open file " ++ shown path ++ ": " ++ e.systemText)
    | .ok text =>
      let text := if text.getLast? = some '\n' then text.dropLast else text
      return (← scriptPieces cwd number rest).map (⟨.file path, text⟩ :: ·)

/-- The files that a script writes to. -/
def writtenPaths (script : List Instruction) : List (List Char) :=
  (script.filterMap fun i =>
    match i.action with
    | .write path _ => some path
    | .substitute s => s.file
    | _ => none).eraseDups

/-- The files that a script reads line by line. -/
def readPaths (script : List Instruction) : List (List Char) :=
  (script.filterMap fun i =>
    match i.action with
    | .readLine path => some path
    | _ => none).eraseDups

/-- Opens files that are written to. -/
def openOutlets (cwd : Place) : List (List Char) → Work (Except String (List (List Char × Nat)))
  | [] => return .ok []
  | path :: rest => do
    match ← Work.openFile cwd (shown path) .writing with
    | .error e => return .error ("couldn't open file " ++ shown path ++ ": " ++ e.systemText)
    | .ok fd => return (← openOutlets cwd rest).map ((path, fd) :: ·)

/-- The lines of a text, each with its end. -/
def wholeLines (mark : Char) (text : List Char) : List (List Char) :=
  match (Text.cut mark text).reverse with
  | [] => []
  | tail :: lines =>
    lines.reverse.map (· ++ [mark]) ++ (if tail.isEmpty then [] else [tail])

/-- The lines of files that are read line by line. -/
def openSources (cwd : Place) (mark : Char) :
    List (List Char) → Work (List (List Char × List (List Char)))
  | [] => return []
  | path :: rest => do
    let text ← contents cwd path
    let lines := match text with
      | .ok text => wholeLines mark text
      | .error _ => []
    return (path, lines) :: (← openSources cwd mark rest)

end StreamEditor

def sedGrammar : Grammar :=
  ⟨"nErsuzDPS", "efl", "i", [("quiet", 'n'), ("silent", 'n'), ("expression=", 'e'), ("file=", 'f'),
    ("regexp-extended", 'E'), ("in-place?", 'i'), ("separate", 's'), ("unbuffered", 'u'),
    ("null-data", 'z'), ("line-length=", 'l'), ("debug", 'D'), ("posix", 'P'), ("sandbox", 'S')]⟩

/-- Edits its inputs by a script. -/
def sed : Utility := fun env args => do
  let o := sedGrammar.read args
  match o.problem with
  | some problem =>
    warn "sed" problem
    usage
  | none =>
    let given := (o.values.filter fun (c, _) => c = 'e' ∨ c = 'f').reverse
    let (given, paths) := match given, o.rest with
      | [], s :: paths => ([('e', s)], paths)
      | given, paths => (given, paths)
    if given.isEmpty then usage
    else
      match ← scriptPieces env.cwd 1 given with
      | .error message => Desk.giveUp message
      | .ok pieces =>
        match parse (o.has 'E' || o.has 'r') pieces with
        | .error message =>
          warn "sed" message
          return 1
        | .ok script =>
          match missingLabel? script with
          | some name =>
            Desk.giveUp ("can't find label for jump to \x60" ++ shown name ++ "'")
          | none => edit env.cwd o (asksForQuiet pieces) script paths
where
  /-- Says how the program is called. -/
  usage : Work Nat := do
    discard <| Work.write 2 (Text.bytesOf
      "Usage: sed [OPTION]... \x7bscript-only-if-no-other-script\x7d [input-file]...\n")
    return 1
  /-- Edits the inputs by a script that was read. -/
  edit (cwd : Place) (o : Options) (quiet : Bool) (script : List Instruction)
      (paths : List (List Char)) : Work Nat := do
    let inPlace := if o.has 'i' then
        let suffix := (o.value? 'i').getD []
        some (if suffix.contains '*' then suffix else '*' :: suffix)
      else none
    if paths.isEmpty ∧ inPlace.isSome then Desk.giveUp "no input files"
    else
      match ← openOutlets cwd (writtenPaths script) with
      | .error message => Desk.giveUp message
      | .ok outlets =>
        let mark := if o.has 'z' then '\x00' else '\n'
        let sources ← openSources cwd mark (readPaths script)
        let editor : Editor := {
          script := script.toArray
          quiet := quiet || o.has 'n'
          mark
          width := ((o.value? 'l').bind natural?).getD 70
          input := []
          ended := false
          sources
          place := none
          lineNumber := 0
          fileName := ['-']
          current := ⟨[], true⟩
          held := ⟨[], true⟩
          additions := []
          output := []
          broken := []
          openRanges := []
          closedRanges := []
          changed := false
          latest := none }
        let desk : Desk := {
          cwd
          editor
          paths := if paths.isEmpty then [['-']] else paths
          source := none
          tail := []
          outlets
          waiting := []
          block := if o.has 'u' then 1 else Kernel.pieceSize
          separate := o.has 's' || inPlace.isSome
          inPlace
          code := 0 }
        desk.work none Work.patience

end ProgramRepair.Utility
