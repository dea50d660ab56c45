import ProgramRepair.Utility.Listing.Layout
import ProgramRepair.Utility.Order

/-!
# Listings

`ls` lists files and the contents of directories.
-/

namespace ProgramRepair.Utility

open Machine

namespace Listing

/-! ## Order -/

/-- The ending of a name, with its point. -/
def endingOf (name : List Char) : List Char :=
  match (Text.cut '.' name).reverse with
  | last :: _ :: _ => '.' :: last
  | _ => []

/-- How an order and, if it does not decide, the order of names compare. -/
def orNames (a b : Item) (o : Ordering) : Bool :=
  match o with
  | .lt => true
  | .gt => false
  | .eq => !(b.name < a.name)

/-- Whether an item comes before another one. -/
def Form.before (f : Form) (a b : Item) : Bool :=
  match f.key with
  | .nothing => true
  | .name => orNames a b .eq
  | .time => orNames a b (Ord.compare (changedOf b.entry) (changedOf a.entry))
  | .size => orNames a b (Ord.compare (sizeOf b.entry) (sizeOf a.entry))
  | .ending =>
    let (x, y) := (endingOf a.name, endingOf b.name)
    orNames a b (if x < y then .lt else if y < x then .gt else .eq)
  | .version => orNames a b (compareVersions a.name b.name)
  | .width =>
    orNames a b (Ord.compare (seenLength (f.quote a.name).1) (seenLength (f.quote b.name).1))

/-- Whether an item is a directory or leads to one. -/
def Item.leadsToDirectory (i : Item) : Bool :=
  i.entry.isDirectory || i.target.any Entry.isDirectory

/-- Items in their order. -/
def Form.sort (f : Form) (items : List Item) : List Item :=
  if f.key = .nothing then items
  else
    let sorted := items.mergeSort f.before
    let sorted := if f.reverse then sorted.reverse else sorted
    if f.directoriesFirst then
      let (first, rest) := sorted.partition Item.leadsToDirectory
      first ++ rest
    else sorted

/-! ## Directories -/

/-- An item, perhaps what a link stands for. -/
def itemAt (d : Disk) (follows : Bool) (name : List Char) (p : Place) : Option Item := do
  let e ← d.lookup p
  let target := match e with
    | .link _ => (d.find p.dropLast (p.getLast?.getD "")).toOption
    | _ => none
  match follows, target with
  | true, some (q, t) => return ⟨name, q, t, none, false⟩
  | _, _ => return ⟨name, p, e, target.map (·.2), follows && (e matches .link _)⟩

/-- Whether a listing says more about files than their names. -/
def Form.asksMore (f : Form) : Bool :=
  f.layout = .long || f.blocks || f.inodes || f.signs = .all || f.key = .time || f.key = .size

/-- What is in a directory, in the order of a listing. -/
def Form.itemsIn (f : Form) (d : Disk) (p : Place) : List Item :=
  let dots := if f.reach = .all then [(".", p), ("..", p.dropLast)] else []
  let isListed := fun (name : String) =>
    let s := bytesChars name
    (f.reach ≠ .visible || s.head? ≠ some '.') &&
      !f.ignored.any fun pattern => Pattern.fits (bareText pattern) s
  let names := (d.children p).filter isListed
  f.sort ((dots ++ names.map fun name => (name, p ++ [name])).filterMap fun (name, q) =>
    itemAt d f.followsAll (bytesChars name) q)

/-- What was printed, whether a color was used, and the paths of links that lead nowhere. -/
structure Printed where
  text : List Char
  used : Bool
  lost : List (List Char)

/-- Whether a color is used for some items. -/
def usesColor (f : Form) (items : List Item) : Bool :=
  f.colored && items.any fun i => (colorOf i.entry).isSome

/-- The listing of a directory, and perhaps those of all directories in it. -/
def listing (f : Form) (d : Disk) :
    (depth : Nat) → (titled used : Bool) → List Char → Place → Printed
  | 0, _, used, _, _ => ⟨[], used, []⟩
  | depth + 1, titled, used, path, p =>
    let items := f.itemsIn d p
    let title := if titled then f.quoteTitle path ++ [':', '\n'] else []
    let size := items.foldl (fun n i => n + if i.isLost then 0 else storedSize i.entry) 0
    let total := if f.layout = .long ∨ f.blocks then
        "total ".toList ++ f.blockForm.text size ++ [f.lineEnd]
      else []
    let own := itemsText f d used items
    let isDots := fun (name : List Char) => name = ['.'] || name = ['.', '.']
    let inner := if f.recursive then
        items.filter fun i => i.entry.isDirectory && !isDots i.name
      else []
    let within := fun (name : List Char) => if path = ['.'] then name else inDirectory path name
    let lost := if f.asksMore then (items.filter (·.isLost)).map fun i => within i.name else []
    inner.foldl (fun before i =>
      let next := listing f d depth true before.used (inDirectory path i.name) i.place
      ⟨before.text ++ '\n' :: next.text, next.used, before.lost ++ next.lost⟩)
      ⟨title ++ total ++ own, used || usesColor f items, lost⟩

/-- Lists some directories one after the other. -/
def listings (f : Form) (d : Disk) (titled used : Bool) : List Item → List Printed
  | [] => []
  | i :: rest =>
    let first := listing f d (d.entries.length + 1) titled used i.name i.place
    first :: listings f d titled first.used rest

/-! ## Arguments -/

/-- What a path in an argument leads to. -/
def given (f : Form) (d : Disk) (cwd : Place) (path : List Char) : Except Disk.Error Item := do
  let (p, e) ← d.findEntry cwd (shown path)
  let target := (d.find cwd (shown path)).toOption
  let follows := f.followsGiven ||
    (f.followsToDirectories && target.any fun (_, t) => t.isDirectory)
  match follows, target with
  | true, some (q, t) => return ⟨path, q, t, none, false⟩
  | _, _ => return ⟨path, p, e, target.map (·.2), false⟩

/-- Lists what options and paths ask for. -/
def run (program : String) (f : Form) (env : Surroundings) (paths : List (List Char)) :
    Work Nat := do
  let d ← Work.call (Kernel.askDisk id)
  let found := paths.map fun path => (path, given f d env.cwd path)
  for (path, r) in found do
    match r with
    | .error e => warn program ("cannot access " ++ inQuotes path ++ ": " ++ e.systemText)
    | .ok _ => pure ()
  let items := f.sort (found.filterMap fun (_, r) => r.toOption)
  let (directories, files) := items.partition fun i => i.entry.isDirectory && !f.plain
  for i in directories do
    if !i.entry.allows .read then
      warn program ("cannot open directory " ++ inQuotes i.name ++ ": Permission denied")
  let readable := directories.filter fun i => i.entry.allows .read
  let titled := 1 < paths.length || f.recursive
  let printed := listings f d titled (usesColor f files) readable
  let lost := printed.flatMap (·.lost)
  for path in lost do
    warn program ("cannot access " ++ inQuotes path ++ ": No such file or directory")
  let blocks := printed.map (·.text)
  let blocks := if files.isEmpty then blocks else itemsText f d false files :: blocks
  let failed := found.any fun (_, r) => r.toOption.isNone
  let code := if failed ∨ readable.length < directories.length then 2
    else if lost.isEmpty then 0 else 1
  emit program (List.flatten (blocks.intersperse ['\n'])) code

/-- A program that lists files, with options that it has by itself. -/
def program (name : String) (usual : List Char) : Utility := fun env args => do
  let o := grammar.read args
  match o.problem, formOf env { o with letters := o.letters ++ usual.reverse } with
  | some problem, _ | none, .error (problem, true) => refuse name problem 2
  | none, .error (problem, false) =>
    warn name problem
    return 2
  | none, .ok f => run name f env (if o.rest.isEmpty then [['.']] else o.rest)

end Listing

/-- Lists files and the contents of directories. -/
def ls : Utility := Listing.program "ls" []

/-- Lists names in columns. -/
def dir : Utility := Listing.program "dir" ['C', 'b']

/-- Lists names with details. -/
def vdir : Utility := Listing.program "vdir" ['l', 'b']

end ProgramRepair.Utility
