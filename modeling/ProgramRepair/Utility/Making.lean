import ProgramRepair.Clock.Wording
import ProgramRepair.Utility.Mode

/-!
# Making files and directories

Programs that make files and directories, that say when a file was last changed, and
that make it longer or shorter.
-/

namespace ProgramRepair.Utility

open Machine

/-! ## Directories -/

/-- Makes a directory. With `quiet` it may be there already. -/
def makeOne (o : Options) (cwd : Place) (mode : Nat) (quiet : Bool) (path : List Char) :
    Errands Unit := do
  match (← Errands.disk).makeDirectoryWith mode cwd (shown path) with
  | .ok d =>
    Errands.setDisk d
    if o.has 'v' then Errands.tell ("mkdir: created directory " ++ inQuotes path)
  | .error e =>
    if !(quiet && (← Errands.disk).isDirectoryAt cwd (shown path)) then
      Errands.complain ("cannot create directory " ++ quoted path ++ ": " ++ e.systemText)

/-- Makes the directories of a path one after the other, up to the first that cannot be made. -/
def makeStages (o : Options) (cwd : Place) (inner last : Nat) : List (List Char) → Errands Unit
  | [] => return ()
  | [path] => makeOne o cwd last true path
  | path :: rest => do
    if ← Errands.succeeds (makeOne o cwd inner true path) then makeStages o cwd inner last rest

def mkdirGrammar : Grammar :=
  ⟨"pv", "m", "", [("parents", 'p'), ("verbose", 'v'), ("mode=", 'm')]⟩

/-- Makes directories. -/
def mkdir : Utility := fun env args => do
  let o := mkdirGrammar.read args
  let change := match o.value? 'm' with
    | none => some none
    | some mode => (modeChange? mode).map some
  match o.problem, o.rest, change with
  | some problem, _, _ => refuse "mkdir" problem 1
  | none, [], _ => refuse "mkdir" "missing operand" 1
  | none, _, none =>
    warn "mkdir" ("invalid mode " ++ quoted ((o.value? 'm').getD []))
    return 1
  | none, paths, some change =>
    runErrand "mkdir" do
      let usual ← Errands.rights 0o777
      let mask := (← get).mask
      let mode := match change with
        | some new => new true mask 0o777
        | none => usual
      paths.forM fun path =>
        if o.has 'p' then makeStages o env.cwd usual mode (pathStages path)
        else makeOne o env.cwd mode false path

/-! ## Pipes -/

def mkfifoGrammar : Grammar := ⟨"Z", "m", "", [("mode=", 'm'), ("context?", 'Z')]⟩

/-- Makes names for pipes. -/
def mkfifo : Utility := fun env args => do
  let o := mkfifoGrammar.read args
  let change := match o.value? 'm' with
    | none => some none
    | some mode => (modeChange? mode).map some
  match o.problem, o.rest, change with
  | some problem, _, _ => refuse "mkfifo" problem 1
  | none, [], _ => refuse "mkfifo" "missing operand" 1
  | none, _, none =>
    warn "mkfifo" "invalid mode"
    return 1
  | none, paths, some change =>
    runErrand "mkfifo" do
      let usual ← Errands.rights 0o666
      let mask := (← get).mask
      let mode := match change with
        | some new => new false mask 0o666
        | none => usual
      paths.forM fun path => discard <|
        Errands.change ("cannot create fifo " ++ inQuotes path) fun d =>
          d.makePipe mode env.cwd (shown path)

def mknodGrammar : Grammar := ⟨"Z", "m", "", [("mode=", 'm'), ("context?", 'Z')]⟩

/-- Makes a special file. Only names for pipes can be made by those who use the disk. -/
def mknod : Utility := fun env args => do
  let o := mknodGrammar.read args
  let change := match o.value? 'm' with
    | none => some none
    | some mode => (modeChange? mode).map some
  let isPipe := ((o.rest.drop 1).head?.getD []).head? = some 'p'
  match o.problem, o.rest, change with
  | some problem, _, _ => refuse "mknod" problem 1
  | none, [], _ => refuse "mknod" "missing operand" 1
  | none, _, none =>
    warn "mknod" "invalid mode"
    return 1
  | none, path :: rest, some change =>
    let expected := if isPipe then 1 else 3
    match rest.drop expected with
    | extra :: _ =>
      warn "mknod" ("extra operand " ++ quoted extra)
      if isPipe ∧ rest.length = 3 then
        discard <| Work.write 2 (Text.bytesOf "Fifos do not have major and minor device numbers.\n")
      hint "mknod" 1
    | [] =>
      if rest.length < expected then
        warn "mknod" ("missing operand after " ++ quoted ((path :: rest).getLast?.getD []))
        if rest.length = 1 then
          discard <| Work.write 2
            (Text.bytesOf "Special files require major and minor device numbers.\n")
        hint "mknod" 1
      else if isPipe then
        runErrand "mknod" do
          let usual ← Errands.rights 0o666
          let mask := (← get).mask
          let mode := match change with
            | some new => new false mask 0o666
            | none => usual
          discard <| Errands.change (named path) fun d => d.makePipe mode env.cwd (shown path)
      else if "bcu".toList.contains (((rest.head?.getD []).head?).getD ' ') then
        warn "mknod" (named path ++ ": Operation not permitted")
        return 1
      else refuse "mknod" ("invalid device type " ++ quoted (rest.head?.getD [])) 1

/-! ## Times -/

/-- The moment that digits such as `200101021530.45` stand for; without a year it is in this one. -/
def stampMoment? (now : Int) (s : List Char) : Option Int := do
  let ds := s.takeWhile Char.isDigit
  let seconds ← match s.drop ds.length with
    | [] => some 0
    | ['.', a, b] => natural? [a, b]
    | _ => none
  let number := fun (ds : List Char) => (natural? ds).getD 0
  let year : Int := (Moment.ofNanoseconds now).date.year
  let (year, rest) ← match ds.length with
    | 12 => some ((number (ds.take 4) : Int), ds.drop 4)
    | 10 => some (Moment.fullYear (number (ds.take 2)) 2, ds.drop 2)
    | 8 => some (year, ds)
    | _ => none
  let part := fun (i : Nat) => number ((rest.drop (2 * i)).take 2)
  let date ← Moment.date? year (part 0) (part 1)
  let time ← Moment.timeOfDay? (part 2) (part 3) seconds 0
  return date.toDays * Moment.perDay * Moment.perSecond + time

/-- The time that the options of `touch` name: none if it is the current one. -/
def touchTime (o : Options) (env : Surroundings) (d : Disk) : Except String (Option Int) :=
  match o.value? 'r', o.value? 'd', o.value? 't' with
  | some path, _, _ =>
    match d.find env.cwd (shown path) with
    | .ok (_, e) => .ok (some ((e.attributes?.map (·.changed)).getD 0))
    | .error e => .error ("failed to get attributes of " ++ inQuotes path ++ ": " ++ e.systemText)
  | none, some text, _ =>
    match Moment.ofText? d.now text with
    | some n => .ok (some n)
    | none => .error ("invalid date format " ++ quoted text)
  | none, none, some text =>
    match stampMoment? d.now text with
    | some n => .ok (some n)
    | none => .error ("invalid date format " ++ quoted text)
  | none, none, none => .ok none

def touchGrammar : Grammar :=
  ⟨"acfmh", "dtr", "", [("no-create", 'c'), ("date=", 'd'), ("reference=", 'r'), ("time=", '='),
    ("no-dereference", 'h')]⟩

/-- Makes files that are not there, and says when files were last changed. -/
def touch : Utility := fun env args => do
  let o := touchGrammar.read args
  let d ← Work.call (Kernel.askDisk id)
  match o.problem, o.rest, touchTime o env d with
  | some problem, _, _ => refuse "touch" problem 1
  | none, _, .error problem =>
    warn "touch" problem
    return 1
  | none, [], _ => refuse "touch" "missing file operand" 1
  | none, paths, .ok time =>
    runErrand "touch" <| paths.forM fun path => do
      let d ← Errands.disk
      let what := "cannot touch " ++ inQuotes path
      let place := match d.placeForWriting env.cwd (shown path) with
        | .error .isDirectory => d.resolve env.cwd (shown path)
        | r => r
      match place with
      | .error e => if !(o.has 'c' ∧ e = .notFound) then Errands.complain (what ++ ": " ++ e.systemText)
      | .ok p =>
        match d.lookup p with
        | some e =>
          if e.attributes?.all (·.own) ∨ (time.isNone ∧ e.allows .write) then
            Errands.setChanged p (time.getD d.stamp)
          else Errands.complain (what ++ ": Permission denied")
        | none =>
          if !o.has 'c' then
            let rights ← Errands.rights Kernel.askedMode
            if ← Errands.change what fun d => d.writeAt p rights [] then
              Errands.setChanged p (time.getD d.stamp)

/-! ## Sizes -/

/-- The size that is asked for when a file has some size. -/
def newSize? (s : List Char) : Option (Nat → Nat) :=
  match s with
  | '+' :: s => (sized? s).map fun n size => size + n
  | '-' :: s => (sized? s).map fun n size => size - n
  | '<' :: s => (sized? s).map fun n size => min size n
  | '>' :: s => (sized? s).map fun n size => max size n
  | s => (sized? s).map fun n _ => n

def truncateGrammar : Grammar :=
  ⟨"co", "sr", "", [("size=", 's'), ("no-create", 'c'), ("reference=", 'r')]⟩

/-- Makes files shorter or longer. -/
def truncate : Utility := fun env args => do
  let o := truncateGrammar.read args
  let wanted := (o.value? 's').map newSize?
  match o.problem, o.rest, wanted with
  | some problem, _, _ => refuse "truncate" problem 1
  | none, _, none => refuse "truncate" "you must specify either '--size' or '--reference'" 1
  | none, _, some none =>
    warn "truncate" ("Invalid number: " ++ quoted ((o.value? 's').getD []))
    return 1
  | none, [], _ => refuse "truncate" "missing file operand" 1
  | none, paths, some (some size) =>
    runErrand "truncate" <| paths.forM fun path => do
      let d ← Errands.disk
      let contents := (d.read env.cwd (shown path)).toOption
      if contents.isSome ∨ !o.has 'c' then
        let old := contents.getD []
        let n := size old.length
        let rights ← Errands.rights Kernel.askedMode
        discard <| Errands.change ("cannot open " ++ inQuotes path ++ " for writing") fun d => do
          d.writeAt (← d.placeForWriting env.cwd (shown path)) rights
            (old.take n ++ List.replicate (n - old.length) 0)

/-! ## Names of their own -/

/-- The first name of a pattern, with its last letters `X` replaced, at which there is nothing. -/
def freshName? (d : Disk) (cwd : Place) (pattern : List Char) : Option (List Char) :=
  let marks := (pattern.reverse.takeWhile (· = 'X')).length
  if marks < 3 then none
  else
    let names := (List.range (d.entries.length + 1)).map fun n =>
      let ds := digits n
      pattern.take (pattern.length - marks) ++ List.replicate (marks - ds.length) 'a' ++ ds
    names.find? fun name => (d.findEntry cwd (shown name)).toOption.isNone

def mktempGrammar : Grammar :=
  ⟨"dqut", "p", "", [("directory", 'd'), ("quiet", 'q'), ("dry-run", 'u'), ("tmpdir?", 'p')]⟩

/-- Makes a file or a directory with a name of its own, and prints the name. -/
def mktemp : Utility := fun env args => do
  let o := mktempGrammar.read args
  match o.problem with
  | some problem => refuse "mktemp" problem 1
  | none =>
    let home := (o.value? 'p').getD ((env.bindings.lookup "TMPDIR".toList).getD "/tmp".toList)
    let pattern := match o.rest with
      | [] => inDirectory home "tmp.XXXXXXXXXX".toList
      | given :: _ => if o.has 'p' ∨ o.has 't' then inDirectory home given else given
    let d ← Work.call (Kernel.askDisk id)
    match freshName? d env.cwd pattern with
    | none =>
      warn "mktemp" ("too few X's in template " ++ quoted pattern)
      return 1
    | some path =>
      let what := (if o.has 'd' then "failed to create directory via template "
        else "failed to create file via template ") ++ quoted pattern
      runErrand "mktemp" do
        let made ←
          if o.has 'u' then pure true
          else if o.has 'd' then
            Errands.change what fun d => d.makeDirectoryWith 0o700 env.cwd (shown path)
          else
            Errands.change what fun d => do
              d.writeAt (← d.placeForWriting env.cwd (shown path)) 0o600 []
        if made then Errands.tell (shown path)

end ProgramRepair.Utility
