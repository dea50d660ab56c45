import ProgramRepair.Utility.Errand

/-!
# Paths without links

A path can be written in many ways: through links, through `.` and `..`, from the
current directory. `realpath` prints the one way that has none of these, or the way
from another directory, and `readlink` does so or prints what a single link stands
for.
-/

namespace ProgramRepair.Utility

open Machine

/-! ## Places of paths -/

/-- What has to be there for a path to have a place. -/
inductive Existence where
  | everything
  | allButLast
  | nothing
deriving DecidableEq, Repr

/-- How the place of a path is found. -/
structure PathRule where
  existence : Existence
  /-- Whether links are followed. -/
  followsLinks : Bool

namespace PathRule

/-- Whether the steps that are left only say that a directory is meant. -/
def isEnd (steps : List String) : Bool := steps.all (· = ".")

/-- Goes the steps of a path from a place. -/
def walk (r : PathRule) (d : Disk) (links : Nat) (here : Place) :
    List String → Except Disk.Error Place
  | [] => .ok here
  | s :: rest =>
    if s = "." then r.walk d links here rest
    else if s = ".." then r.walk d links here.dropLast rest
    else
      let next := here ++ [s]
      let onward := fun (isDirectory : Bool) =>
        if isDirectory || rest.isEmpty || r.existence = .nothing then r.walk d links next rest
        else .error .notDirectory
      match d.lookup next with
      | some (.link target) =>
        if r.followsLinks then
          match links with
          | 0 => if r.existence = .nothing then r.walk d 0 next rest else .error .tooManyLinks
          | links + 1 => r.walk d links (Disk.startOf here target) (Disk.steps target ++ rest)
        else
          onward <| match d.find here s with
            | .ok (_, .directory _) => true
            | _ => false
      | some e => onward e.isDirectory
      | none =>
        match r.existence with
        | .nothing => r.walk d links next rest
        | .allButLast => if isEnd rest then .ok next else .error .notFound
        | .everything => .error .notFound
termination_by path => (links, path.length)

/-- The place of a path that is used in a directory. -/
def place (r : PathRule) (d : Disk) (cwd : Place) (path : List Char) : Except Disk.Error Place :=
  if path.isEmpty then .error .notFound
  else r.walk d Disk.maxLinks (Disk.startOf cwd (shown path)) (Disk.steps (shown path))

end PathRule

/-- A place as a path. -/
def placeText (p : Place) : List Char := bytesChars (Disk.pathOf p)

/-- The way from one place to another. -/
def relativePath (p q : Place) : List Char :=
  let shared := ((p.zip q).takeWhile fun (a, b) => a = b).length
  let steps := List.replicate (p.length - shared) ".." ++ q.drop shared
  if steps.isEmpty then ['.'] else bytesChars ("/".intercalate steps)

/-! ## Links -/

def readlinkGrammar : Grammar :=
  ⟨"nfemqsvz", "", "", [("canonicalize", 'f'), ("canonicalize-existing", 'e'),
    ("canonicalize-missing", 'm'), ("no-newline", 'n'), ("quiet", 'q'), ("silent", 's'),
    ("verbose", 'v'), ("zero", 'z')]⟩

/-- What is printed for each path, or why there is nothing. -/
def readlinkText (o : Options) (d : Disk) (cwd : Place) (path : List Char) :
    Except Disk.Error (List Char) :=
  let existence := o.letters.findSome? fun c =>
    match c with
    | 'e' => some Existence.everything
    | 'f' => some .allButLast
    | 'm' => some .nothing
    | _ => none
  match existence with
  | some existence => (PathRule.place ⟨existence, true⟩ d cwd path).map placeText
  | none => do
    match (← d.findEntry cwd (shown path)).2 with
    | .link text => return bytesChars text
    | _ => throw .invalidArgument

/-- Prints what links stand for, or the places of paths. -/
def readlink : Utility := fun env args => do
  let o := readlinkGrammar.read args
  match o.problem, o.rest with
  | some problem, _ => refuse "readlink" problem 1
  | none, [] => refuse "readlink" "missing operand" 1
  | none, paths =>
    let isSingle := paths.length = 1
    if o.has 'n' && !isSingle then
      warn "readlink" "ignoring --no-newline with multiple arguments"
    let lineEnd := if o.has 'n' && isSingle then [] else if o.has 'z' then ['\x00'] else ['\n']
    let isVerbose := (o.letters.find? fun c => c = 'v' ∨ c = 'q' ∨ c = 's') = some 'v'
    go o isVerbose lineEnd env.cwd 0 paths
where
  /-- Goes from path to path. -/
  go (o : Options) (isVerbose : Bool) (lineEnd : List Char) (cwd : Place) (code : Nat) :
      List (List Char) → Work Nat
    | [] => return code
    | path :: rest => do
      match readlinkText o (← Work.call (Kernel.askDisk id)) cwd path with
      | .ok text =>
        if ← tryPut "readlink" (text ++ lineEnd) then go o isVerbose lineEnd cwd code rest
        else return 1
      | .error e =>
        if isVerbose then warn "readlink" (named path ++ ": " ++ e.systemText)
        go o isVerbose lineEnd cwd 1 rest

/-! ## Real paths -/

def realpathGrammar : Grammar :=
  ⟨"eLmPqsz", "", "", [("canonicalize-existing", 'e'), ("canonicalize-missing", 'm'),
    ("logical", 'L'), ("physical", 'P'), ("quiet", 'q'), ("no-symlinks", 's'), ("strip", 's'),
    ("zero", 'z'), ("relative-to=", 't'), ("relative-base=", 'b')]⟩

/-- The place of a path by the options. With `-L` steps back are gone before links are followed. -/
def realPlace (o : Options) (d : Disk) (cwd : Place) (path : List Char) :
    Except Disk.Error Place := do
  let existence := (o.letters.findSome? fun c =>
    match c with
    | 'e' => some Existence.everything
    | 'm' => some .nothing
    | _ => none).getD .allButLast
  let way := (o.letters.find? fun c => c = 'L' ∨ c = 'P' ∨ c = 's').getD 'P'
  let p ← PathRule.place ⟨existence, way = 'P'⟩ d cwd path
  if way = 'L' then PathRule.place ⟨existence, true⟩ d [] (placeText p) else return p

/-- How places are printed: from which directory, and below which one. -/
structure RelativeForm where
  start : Option Place
  base : Option Place

/-- A place in a form. -/
def RelativeForm.text (f : RelativeForm) (p : Place) : List Char :=
  match f.start with
  | some start => if f.base.all (·.isPrefixOf p) then relativePath start p else placeText p
  | none => placeText p

/-- The form that options ask for, or the path of a directory that cannot be used and why. -/
def relativeForm (o : Options) (d : Disk) (cwd : Place) :
    Except (List Char × Disk.Error) RelativeForm := do
  let directory := fun (path : List Char) => do
    let p ← (realPlace o d cwd path).mapError fun e => (path, e)
    if o.has 'e' && !(d.lookup p).any Entry.isDirectory then throw (path, .notDirectory)
    return p
  match (o.value? 't').or (o.value? 'b') with
  | none => return ⟨none, none⟩
  | some origin =>
    let start ← directory origin
    match o.value? 'b' with
    | none => return ⟨some start, none⟩
    | some base =>
      let base ← directory base
      if base.isPrefixOf start then return ⟨some start, some base⟩ else return ⟨none, some base⟩

/-- Prints the places that paths lead to. -/
def realpath : Utility := fun env args => do
  let o := realpathGrammar.read args
  match o.problem, o.rest with
  | some problem, _ => refuse "realpath" problem 1
  | none, [] => refuse "realpath" "missing operand" 1
  | none, paths =>
    match relativeForm o (← Work.call (Kernel.askDisk id)) env.cwd with
    | .error (path, e) =>
      warn "realpath" (named path ++ ": " ++ e.systemText)
      return 1
    | .ok f => go o f env.cwd 0 paths
where
  /-- Goes from path to path. -/
  go (o : Options) (f : RelativeForm) (cwd : Place) (code : Nat) : List (List Char) → Work Nat
    | [] => return code
    | path :: rest => do
      match realPlace o (← Work.call (Kernel.askDisk id)) cwd path with
      | .ok p =>
        if ← tryPut "realpath" (f.text p ++ [if o.has 'z' then '\x00' else '\n']) then
          go o f cwd code rest
        else return 1
      | .error e =>
        if !o.has 'q' then warn "realpath" (named path ++ ": " ++ e.systemText)
        go o f cwd 1 rest

end ProgramRepair.Utility
