import ProgramRepair.Text.Lines

/-!
# Paths

A path is a text. Its components are what stands between its slashes; repeated
slashes, a slash at the end and inner `.` components do not matter, while a `.`
in front and `..` do.
-/

namespace ProgramRepair.Disk

/-- A step of a path. -/
inductive Component where
  | root
  | current
  | parent
  | name (s : String)
deriving DecidableEq, Repr

/-- Whether a path starts at the root. -/
def isAbsolute (path : String) : Bool := path.toList.head? == some '/'

/-- Whether a path ends with a slash, as the paths of directories may. -/
def endsAsDirectory (path : String) : Bool := path.toList.getLast? == some '/'

/-- The texts between the slashes of a path. -/
def segments (path : String) : List String :=
  ((Text.cut '/' path.toList).filter (· ≠ [])).map String.ofList

/-- The components of a path. -/
def components (path : String) : List Component :=
  let lead :=
    if isAbsolute path then [Component.root]
    else if (Text.cut '/' path.toList).head? = some ['.'] then [Component.current]
    else []
  lead ++ ((segments path).filter (· ≠ ".")).map fun s =>
    if s = ".." then Component.parent else .name s

/-- Whether two texts are the same path. -/
def samePath (a b : String) : Bool := components a = components b

/-- The path `relative` as seen from `base`; an absolute path stays as it is. -/
def join (base relative : String) : String :=
  if isAbsolute relative then relative
  else if base = "" ∨ endsAsDirectory base then base ++ relative
  else base ++ "/" ++ relative

/-- The text of a component. -/
def Component.text : Component → String
  | root => "/"
  | current => "."
  | parent => ".."
  | name s => s

/-- The path of the directory that a path leads into last, if it has one. -/
def parent? (path : String) : Option String :=
  match (components path).reverse with
  | [] | [.root] => none
  | _ :: before =>
    match before.reverse with
    | .root :: names => some ("/" ++ "/".intercalate (names.map Component.text))
    | steps => some ("/".intercalate (steps.map Component.text))

end ProgramRepair.Disk
