import ProgramRepair.Shell.Process

/-!
# Redirections

Before a command is carried out its redirections change what its descriptors
stand for; what they stood for is set aside and given back afterwards. All words
are expanded before the first descriptor changes.
-/

namespace ProgramRepair.Shell

open Machine

/-- A redirection whose word is expanded. -/
inductive Rerouting where
  | file (fd : Nat) (mode : Kernel.Mode) (isProtected : Bool) (path : List Char)
  | copy (fd source : Nat)
  | close (fd : Nat)
  | text (fd : Nat) (contents : List Char)
  /-- What cannot be carried out. -/
  | refused (fd : Nat) (message : String)

/-- The descriptor that is changed. -/
def Rerouting.fd : Rerouting → Nat
  | file fd _ _ _ | copy fd _ | close fd | text fd _ | refused fd _ => fd

/-- Descriptors that were changed and where their channels are kept, the latest first. -/
abbrev Kept := List (Nat × Option Nat)

/-- The texts up to this number of bytes that are put into a pipe at once. -/
def smallText : Nat := 4096

namespace Sh

/-- Expands the word of a redirection. -/
def expandRedirection (capture : Capturer) : Redirection → Sh (List Rerouting)
  | .document fd number => do
    match (← get).documents.lookup number with
    | some w => return [.text fd (← expandText capture w)]
    | none => return [.text fd []]
  | .line fd w => do return [.text fd ((← expandText capture w) ++ ['\n'])]
  | .everything atEnd w => do
    match ← target w with
    | .ok path => return [.file 1 (if atEnd then .appending else .writing) false path, .copy 2 1]
    | .error message => return [.refused 1 message]
  | .file fd direction w => do
    match ← target w with
    | .error message => return [.refused fd message]
    | .ok text =>
      match direction with
      | .input => return [.file fd .reading false text]
      | .output => return [.file fd .writing ((← get).isOn 'C') text]
      | .forcedOutput => return [.file fd .writing false text]
      | .append => return [.file fd .appending false text]
      | .inputOutput => return [.file fd .updating false text]
      | .copyInput | .copyOutput => copy fd (direction = .copyOutput) text
where
  /-- The path that a word stands for, which has to be a single one in the extended language. -/
  target (w : Word) : Sh (Except String (List Char)) := do
    if (← get).isExtended then
      match ← expandFields capture w with
      | [path] => return .ok path
      | _ =>
        let written := w.flatMap fun
          | .text s _ => s
          | .variable (.plain name) _ _ _ _ _ => '$' :: name
          | _ => []
        return .error (pathText written ++ ": ambiguous redirect")
    else return .ok (← expandText capture w)
  /-- What a redirection to a descriptor asks for. In the extended language the old one can be
  closed, and all output can go to a file. -/
  copy (fd : Nat) (isOutput : Bool) (text : List Char) : Sh (List Rerouting) := do
    let isExtended := (← get).isExtended
    let areDigits := !text.isEmpty && text.all Char.isDigit
    match text.reverse with
    | ['-'] => return [.close fd]
    | '-' :: ds =>
      if isExtended && ds.all Char.isDigit then
        let source := digitsNumber ds.reverse
        return [.copy fd source, .close source]
      else refuse fd text
    | _ =>
      if areDigits && (isExtended || text.length = 1) then return [.copy fd (digitsNumber text)]
      else if isExtended && isOutput && fd = 1 then
        return [.file 1 .writing false text, .copy 2 1]
      else refuse fd text
  /-- Says that a text names no descriptor. -/
  refuse (fd : Nat) (text : List Char) : Sh (List Rerouting) := do
    if (← get).isExtended then return [.refused fd (pathText text ++ ": ambiguous redirect")]
    else failShell "Syntax error: Bad fd number" 2

/-- Expands the words of redirections. -/
def expandRedirections (capture : Capturer) : List Redirection → Sh (List Rerouting)
  | [] => return []
  | r :: rest => do
    let first ← expandRedirection capture r
    return first ++ (← expandRedirections capture rest)

/-- What is wrong with a file, where it is no use to name a missing file twice. -/
def openingProblem (dialect : Dialect) (mode : Kernel.Mode) (path : List Char) (e : Disk.Error) :
    String :=
  let missing := e = .notFound || e = .notDirectory
  if dialect = .extended then
    pathText path ++ ": " ++
      (if e = .alreadyExists then "cannot overwrite existing file" else e.systemText)
  else if mode = .reading then
    "cannot open " ++ pathText path ++ ": " ++ (if missing then "No such file" else e.systemText)
  else
    "cannot create " ++ pathText path ++ ": " ++
      (if missing then "Directory nonexistent" else e.systemText)

/-- Changes a descriptor. -/
def reroute : Rerouting → Sh (Except String Unit)
  | .refused _ message => return .error message
  | .close fd => do
    call (Kernel.close fd)
    return .ok ()
  | .copy fd source => do
    match ← call (Kernel.duplicate source fd) with
    | .ok () => return .ok ()
    | .error e => return .error (toString source ++ ": " ++ e.systemText)
  | .file fd mode isProtected path => do
    let cwd := (← get).cwd
    let openingProblem := openingProblem (← get).dialect
    let taken ← if isProtected then call (Kernel.askDisk fun d =>
        match d.find cwd (pathText path) with
        | .ok (_, .file _ _) => true
        | _ => false)
      else pure false
    if taken then return .error (openingProblem mode path .alreadyExists)
    else
      match ← Course.openFile cwd (pathText path) mode with
      | .ok new =>
        moveDescriptor new fd
        return .ok ()
      | .error e => return .error (openingProblem mode path e)
  | .text fd contents => do
    let bytes := Text.bytesOfChars contents
    let (reader, writer) ← call Kernel.pipe
    if contents.length ≤ smallText then discard <| work (Work.write writer bytes)
    else
      discard <| work <| .spawn do
        Work.call (Kernel.close reader)
        discard <| Work.write writer bytes
        return 0
    call (Kernel.close writer)
    moveDescriptor reader fd
    return .ok ()

/-- Changes descriptors one after the other and keeps their channels. The shell complains about the
first that cannot be changed. -/
def rerouteAll (keep : Bool) (kept : Kept) : List Rerouting → Sh (Kept × Bool)
  | [] => return (kept, true)
  | r :: rest => do
    let kept ←
      if keep && !kept.any (·.1 = r.fd) then pure ((r.fd, ← call (Kernel.setAside r.fd)) :: kept)
      else pure kept
    match ← reroute r with
    | .ok () => rerouteAll keep kept rest
    | .error message =>
      complainPlainly message
      return (kept, false)

/-- Gives descriptors back what was kept. -/
def giveBack : Kept → Sh Unit
  | [] => return ()
  | (fd, aside) :: rest => do
    call (Kernel.putBack fd aside)
    giveBack rest

/-- Carries out redirections. There is no value if one of them has failed; everything is then as
before. -/
def redirect (capture : Capturer) (keep : Bool) (rs : List Redirection) : Sh (Option Kept) := do
  if rs.isEmpty then return some []
  else
    match ← rerouteAll keep [] (← expandRedirections capture rs) with
    | (kept, true) => return some kept
    | (kept, false) =>
      giveBack kept
      return none

/-- Sets the status of a command whose redirections have failed. -/
def failRedirection : Sh Unit := do setStatus (← inDialect 2 1)

/-- Carries out a computation with redirections. -/
def withRedirections (capture : Capturer) (rs : List Redirection) (m : Sh Unit) : Sh Unit := do
  if rs.isEmpty then m
  else
    match ← redirect capture true rs with
    | none => failRedirection
    | some kept =>
      let r ← attempt m
      giveBack kept
      resume r

end Sh

end ProgramRepair.Shell
