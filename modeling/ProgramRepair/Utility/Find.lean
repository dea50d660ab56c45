import ProgramRepair.Machine.Task
import ProgramRepair.Utility.Find.Condition
import ProgramRepair.Utility.Find.Query

/-!
# Finding files

`find` goes through directories and carries out a condition on every path. A directory
comes before what is in it, unless the contents are asked for first. What an action
changes shows at once in the rest of the search: the names in a directory are read when
it is entered, and each of them is looked at when its turn comes.
-/

namespace ProgramRepair.Utility

open Machine

namespace Find

/-- Runs a command in some surroundings to its end. The value is its exit code. -/
abbrev Caller := Surroundings → List (List Char) → Work Nat

/-- What has come of a search so far. -/
structure Progress where
  /-- What is to be printed, the latest first. -/
  waiting : List (List Char)
  /-- The files that are printed to: their names, descriptors and what is to be printed. -/
  files : List (List Char × Nat × List (List Char))
  /-- For the numbers of commands the directories and paths that they wait for, the latest first. -/
  collected : List (Nat × List (List Char × List Char))
  /-- Whether the search does not go into the current directory. -/
  pruned : Bool
  code : Nat

/-- A part of a search, which may be called off. -/
abbrev Search := Course Progress Unit

namespace Search

/-- What the search is done with. -/
structure Context where
  query : Query
  env : Surroundings
  caller : Caller

/-- Asks the disk. -/
def ask (f : Disk → α) : Search α := Course.call (Kernel.askDisk f)

/-- Prints what is to be printed. -/
def flush : Search Unit := do
  let s ← get
  if !s.waiting.isEmpty then discard <| Course.work (put s.waiting.reverse.flatten)
  for (_, fd, waiting) in s.files do
    if !waiting.isEmpty then
      discard <| Course.work (Work.write fd (Text.bytesOfChars waiting.reverse.flatten))
  modify fun s => { s with
    waiting := []
    files := s.files.map fun (name, fd, _) => (name, fd, []) }

/-- Complains, behind what was printed before. -/
def complain (message : String) : Search Unit := do
  flush
  Course.work (warn "find" message)
  modify fun s => { s with code := 1 }

/-- Complains about a path. -/
def complainOf (path : List Char) (e : Disk.Error) : Search Unit :=
  complain (quoted path ++ ": " ++ e.systemText)

/-- Prints a text. -/
def printTo (file : Option (List Char)) (text : List Char) : Search Unit :=
  match file with
  | none => modify fun s => { s with waiting := text :: s.waiting }
  | some name =>
    modify fun s => { s with
      files := s.files.map fun (n, fd, waiting) =>
        if n = name then (n, fd, text :: waiting) else (n, fd, waiting) }

/-! ## Commands -/

/-- The directory that a command runs in, and the path that it gets. -/
def callingPlace (v : Visit) (inDirectory : Bool) : List Char × List Char :=
  if inDirectory then (v.directory, '.' :: '/' :: v.ownName) else (['.'], v.path)

/-- A word with a path in the place of each pair of braces. -/
def withPath (path : List Char) : List Char → List Char
  | '\x7b' :: '\x7d' :: s => path ++ withPath path s
  | c :: s => c :: withPath path s
  | [] => []

/-- Runs a command in a directory. -/
def runIn (c : Context) (dir : List Char) (command : List (List Char)) : Search Nat := do
  flush
  let cwd ← ask fun d => (d.resolve c.env.cwd (shown dir)).toOption.getD c.env.cwd
  Course.work (c.caller { c.env with cwd } command)

/-- Runs a command for a visit. The value is whether it went well. -/
def run (c : Context) (command : List (List Char)) (inDirectory : Bool) (v : Visit) :
    Search Bool := do
  let (dir, path) := callingPlace v inDirectory
  return (← runIn c dir (command.map (withPath path))) = 0

/-- Reads a line of the standard input. -/
def answer (before : List Char) : Nat → Work (List Char)
  | 0 => return before.reverse
  | times + 1 => do
    match ← Work.call (Kernel.read 0 1) with
    | .ok [b] =>
      let c := Char.ofNat b.toNat
      if c = '\n' then return before.reverse else answer (c :: before) times
    | _ => return before.reverse

/-- Asks whether to run a command for a visit, and runs it if the answer is yes. -/
def runIfWanted (c : Context) (command : List (List Char)) (inDirectory : Bool) (v : Visit) :
    Search Bool := do
  flush
  let name := command.head?.getD []
  let question := "< ".toList ++ name ++ " ... ".toList ++ v.path ++ " > ? ".toList
  discard <| Course.work (Work.write 2 (Text.bytesOfChars question))
  match ← Course.work (answer [] Work.patience) with
  | 'y' :: _ | 'Y' :: _ => run c command inDirectory v
  | _ => return false

/-- Keeps a visit for a command. -/
def collect (number : Nat) (inDirectory : Bool) (v : Visit) : Search Unit :=
  modify fun s =>
    let old := (s.collected.lookup number).getD []
    { s with collected := assign number (callingPlace v inDirectory :: old) s.collected }

/-- The paths that were collected, for each directory. -/
def batches : List (List Char × List Char) → List (List Char × List (List Char))
  | [] => []
  | (dir, path) :: rest =>
    match batches rest with
    | (other, paths) :: more =>
      if other = dir then (dir, path :: paths) :: more
      else (dir, [path]) :: (other, paths) :: more
    | [] => [(dir, [path])]

/-- The commands for many paths in a condition. -/
def commandsOf : Condition → List (Nat × List (List Char))
  | .action (.runAll number command _) => [(number, command)]
  | .action _ | .test _ => []
  | .negated c => commandsOf c
  | .both a b | .either a b | .inTurn a b => commandsOf a ++ commandsOf b

/-- Runs the commands for what was collected. -/
def runCollected (c : Context) : Search Unit := do
  for (number, command) in commandsOf c.query.condition do
    for (dir, paths) in batches ((← get).collected.lookup number |>.getD []).reverse do
      let code ← runIn c dir (command ++ paths)
      if code ≠ 0 then modify fun s => { s with code := 1 }

/-! ## Conditions -/

/-- Takes away what a visit has come to. -/
def delete (v : Visit) : Search Bool := do
  if v.path = ['.'] then return true
  let path := shown (bytesChars (Disk.pathOf v.place))
  let remove := if v.entry.isDirectory then Disk.removeDirectory else Disk.removeFile
  match ← Course.call (Kernel.changeDisk fun d => remove d [] path) with
  | .ok () => return true
  | .error e =>
    complain ("cannot delete " ++ quoted v.path ++ ": " ++ e.systemText)
    return false

/-- Carries out an action. The value is whether it went well. -/
def act (c : Context) (v : Visit) : Action → Search Bool
  | .print layout file => do
    printTo file (← ask fun d => layout.text d v)
    return true
  | .run command inDirectory => run c command inDirectory v
  | .ask command inDirectory => runIfWanted c command inDirectory v
  | .runAll number _ inDirectory => do
    collect number inDirectory v
    return true
  | .delete => delete v
  | .prune => do
    modify fun s => { s with pruned := true }
    return true
  | .quit => Course.leave ()

/-- Carries out a condition. -/
def meets (c : Context) (v : Visit) : Condition → Search Bool
  | .test t => ask fun d => t.holds d v
  | .action a => act c v a
  | .negated a => do return !(← meets c v a)
  | .both a b => do if ← meets c v a then meets c v b else return false
  | .either a b => do if ← meets c v a then return true else meets c v b
  | .inTurn a b => do
    discard <| meets c v a
    meets c v b

/-! ## Directories -/

/-- What a path leads to. -/
def visitOf (d : Disk) (follows : Bool) (cwd : Place) (path start : List Char) (depth : Nat) :
    Except Disk.Error Visit :=
  let entry := d.findEntry cwd (shown path)
  let found := if follows then
      match d.find cwd (shown path) with
      | .ok r => .ok r
      | .error _ => entry
    else entry
  found.map fun (place, entry) => ⟨path, start, place, entry, depth⟩

/-- The names in a directory that is entered. -/
def namesIn (d : Disk) (v : Visit) : Except Disk.Error (List String) :=
  match d.lookup v.place with
  | some (.directory a) =>
    if a.allows .read then .ok (d.children v.place) else .error .permissionDenied
  | some _ => .error .notDirectory
  | none => .error .notFound

/-- Goes through what is at and below a visit; `above` are the directories that it is in. -/
def walk (c : Context) : Nat → (above : List (Place × List Char)) → Visit → Search Unit
  | 0, _, _ => return ()
  | fuel + 1, above, v => do
    let q := c.query
    match if v.entry.isDirectory then above.lookup v.place else none with
    | some outer =>
      complain ("File system loop detected; " ++ quoted v.path ++
        " is part of the same file system loop as " ++ quoted outer ++ ".")
    | none =>
      let judge : Search Unit :=
        if q.least ≤ v.depth then do discard <| meets c v q.condition else return ()
      modify fun s => { s with pruned := false }
      if !q.contentsFirst then judge
      let pruned := (← get).pruned
      if v.entry.isDirectory ∧ q.most.all (v.depth < ·) ∧ !pruned then
        match ← ask fun d => namesIn d v with
        | .error e => complainOf v.path e
        | .ok names =>
          for name in names do
            let path := inDirectory v.path (bytesChars name)
            match ← ask fun d => visitOf d q.follows c.env.cwd path v.start (v.depth + 1) with
            | .ok inner => walk c fuel ((v.place, v.path) :: above) inner
            | .error e => complainOf path e
      if q.contentsFirst then judge

/-- Goes through all paths of a call. -/
def walkAll (c : Context) (paths : List (List Char)) : Search Unit :=
  paths.forM fun path => do
    let follows := c.query.follows || c.query.followsStart
    match ← ask fun d => (visitOf d follows c.env.cwd path path 0, d.entries.length) with
    | (.ok v, size) => walk c (size + 2) [] v
    | (.error e, _) => complainOf path e

/-- A whole search. -/
def whole (c : Context) (paths : List (List Char)) : Search Unit := do
  discard <| (walkAll c paths).attempt
  runCollected c
  flush

end Search

/-- The files that a condition prints to. -/
def filesOf : Condition → List (List Char)
  | .action (.print _ (some file)) => [file]
  | .action _ | .test _ => []
  | .negated c => filesOf c
  | .both a b | .either a b | .inTurn a b => filesOf a ++ filesOf b

/-- Opens the files that are printed to. -/
def openFiles (cwd : Place) : List (List Char) →
    Work (Except String (List (List Char × Nat × List (List Char))))
  | [] => return .ok []
  | name :: rest => do
    match ← Work.openFile cwd (shown name) .writing with
    | .error e => return .error (quoted name ++ ": " ++ e.systemText)
    | .ok fd => return (← openFiles cwd rest).map fun files => (name, fd, []) :: files

end Find

/-- Finds files. -/
def find (caller : Find.Caller) : Utility := fun env args => do
  let isWay := fun a : List Char => a = ['-', 'L'] || a = ['-', 'P'] || a = ['-', 'H']
  let ways := args.takeWhile isWay
  let args := (args.drop ways.length).dropWhile fun a => ['-', 'O'].isPrefixOf a
  let paths := args.takeWhile fun a => !Find.isWord true a
  let d ← Work.call (Kernel.askDisk id)
  let way := ways.getLast?
  let circumstances := ⟨d, env.cwd, way = some ['-', 'L']⟩
  match Find.Query.ofArguments circumstances (way = some ['-', 'H']) (args.drop paths.length) with
  | .error message =>
    warn "find" message
    return 1
  | .ok query =>
    for w in query.warnings do warn "find" w
    match ← Find.openFiles env.cwd (Find.filesOf query.condition).eraseDups with
    | .error message =>
      warn "find" message
      return 1
    | .ok files =>
      let search := Find.Search.whole ⟨query, env, caller⟩ (if paths.isEmpty then [['.']] else paths)
      let (_, s) ← search.toWork ⟨[], files, [], false, 0⟩
      return s.code

end ProgramRepair.Utility
