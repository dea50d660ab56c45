import ProgramRepair.Text.CharClass
import ProgramRepair.Utility.Input

/-!
# Translating characters

`tr` replaces, deletes or squeezes the characters of its input. A set of characters is
written as a list of characters, ranges, classes and repetitions. The characters of the
first set are replaced by those of the second at the same place; the last one of the
second set stands for all that are missing in it.
-/

namespace ProgramRepair.Utility

open Machine

namespace CharacterSet

/-- A part of a set. -/
inductive Item where
  | chars (cs : List Char)
  | class (name : List Char)
  /-- A character some number of times, or as often as it is needed. -/
  | repeated (c : Char) (times : Option Nat)
deriving DecidableEq

/-- A character and whether it had an escape, which takes away its meaning. -/
abbrev Marked := Char × Bool

/-- A set with its escapes replaced. The last part says whether a backslash stands at the end. -/
def unescape : Nat → List Char → List Marked × Bool
  | 0, _ => ([], false)
  | _ + 1, [] => ([], false)
  | _ + 1, ['\\'] => ([('\\', true)], true)
  | fuel + 1, '\\' :: c :: s =>
    let isOctal := fun d : Char => '0' ≤ d && d ≤ '7'
    if isOctal c then
      let ds := ((c :: s).takeWhile isOctal).take 3
      let value := fun (ds : List Char) => ds.foldl (fun n d => 8 * n + (d.toNat - '0'.toNat)) 0
      let ds := if 255 < value ds then ds.take 2 else ds
      let (rest, dangling) := unescape fuel ((c :: s).drop ds.length)
      ((Char.ofNat (value ds), true) :: rest, dangling)
    else
      let (rest, dangling) := unescape fuel s
      let e := match c with
        | 'a' => '\x07'
        | 'b' => '\x08'
        | 'f' => '\x0c'
        | 'n' => '\n'
        | 'r' => '\x0d'
        | 't' => '\t'
        | 'v' => '\x0b'
        | c => c
      ((e, true) :: rest, dangling)
  | fuel + 1, c :: s =>
    let (rest, dangling) := unescape fuel s
    ((c, false) :: rest, dangling)

/-- A character as messages show it. -/
def shownChar (c : Char) : String :=
  match c with
  | '\\' => "\\\\"
  | '\x07' => "\\a"
  | '\x08' => "\\b"
  | '\x0c' => "\\f"
  | '\n' => "\\n"
  | '\x0d' => "\\r"
  | '\t' => "\\t"
  | '\x0b' => "\\v"
  | c => if isUnquotable c then shown ('\\' :: octalDigits c) else shown [c]

/-- The text up to a sign and a closing bracket, and what follows them. -/
def upTo (sign : Char) : List Marked → Option (List Marked × List Marked)
  | (c, escaped) :: (d, escaped') :: rest =>
    if c = sign ∧ !escaped ∧ d = ']' ∧ !escaped' then some ([], rest)
    else (upTo sign ((d, escaped') :: rest)).map fun (inside, rest) => ((c, escaped) :: inside, rest)
  | _ => none

/-- The number in a repetition; one with a leading zero is octal. -/
def times? (ds : List Char) : Option (Option Nat) :=
  match ds with
  | [] => some none
  | '0' :: octal =>
    if octal.all fun c => '0' ≤ c ∧ c ≤ '7' then
      let n := octal.foldl (fun n d => 8 * n + (d.toNat - '0'.toNat)) 0
      some (if n = 0 then none else some n)
    else none
  | ds => (natural? ds).map some

/-- A repetition behind its opening bracket, and what follows it. -/
def repetition? (s : List Marked) : Option (Item × List Marked) :=
  match s with
  | (c, _) :: ('*', false) :: rest =>
    let ds := rest.takeWhile fun g => g.1 ≠ ']'
    match rest.drop ds.length, times? (ds.map (·.1)) with
    | _ :: rest, some n => some (.repeated c n, rest)
    | _, _ => none
  | _ => none

/-- The items of a set. -/
def items : Nat → List Marked → Except String (List Item)
  | 0, _ => .ok []
  | _ + 1, [] => .ok []
  | fuel + 1, (c, escaped) :: s =>
    let bracketed : Option (Except String Item × List Marked) :=
      if c ≠ '[' ∨ escaped then none
      else
        match s with
        | (':', false) :: inside =>
          (upTo ':' inside).map fun (name, rest) =>
            let name := name.map (·.1)
            (if (Text.classTest? name).isSome then .ok (.class name)
              else .error ("invalid character class " ++ quoted name), rest)
        | ('=', false) :: inside =>
          (upTo '=' inside).map fun (name, rest) =>
            (match name with
              | [(c, _)] => .ok (.chars [c])
              | name => .error (shown (name.map (·.1)) ++
                  ": equivalence class operand must be a single character"), rest)
        | s => (repetition? s).map fun (item, rest) => (.ok item, rest)
    match bracketed with
    | some (item, rest) => do return (← item) :: (← items fuel rest)
    | none =>
      match s with
      | ('-', false) :: (d, _) :: rest =>
        if d < c then
          .error ("range-endpoints of '" ++ shownChar c ++ "-" ++ shownChar d ++
            "' are in reverse collating sequence order")
        else do
          let range := (List.range (d.toNat - c.toNat + 1)).map fun i => Char.ofNat (c.toNat + i)
          return .chars range :: (← items fuel rest)
      | s => do return .chars [c] :: (← items fuel s)

/-- The characters of a class. -/
def classChars (name : List Char) : List Char :=
  ((List.range 128).map Char.ofNat).filter (Text.inClass name)

/-- How many characters an item stands for by itself. -/
def Item.count : Item → Nat
  | chars cs => cs.length
  | «class» name => (classChars name).length
  | repeated _ n => n.getD 0

/-- The characters of an item; a repetition as often as needed fills up to `room`. -/
def Item.expand (room : Nat) : Item → List Char
  | chars cs => cs
  | «class» name => classChars name
  | repeated c n => List.replicate (n.getD room) c

/-- The characters of a set; a repetition as often as needed makes it `size` long. -/
def expand (size : Nat) (set : List Item) : List Char :=
  let room := set.foldl (fun n i => n - i.count) size
  set.flatMap (Item.expand room)

/-- The characters that are not in a set. -/
def complement (set : List Char) : List Char :=
  ((List.range 256).map Char.ofNat).filter fun c => !set.contains c

/-- Whether an item is repeated as often as needed. -/
def Item.isElastic : Item → Bool
  | repeated _ none => true
  | _ => false

/-- Whether an item is a class of letters of one case. -/
def Item.isCase (i : Item) : Bool := i = .class "upper".toList || i = .class "lower".toList

/-- Whether an item is a class. -/
def Item.isClass : Item → Bool
  | «class» _ => true
  | _ => false

end CharacterSet

namespace Translation

open CharacterSet

/-- The places at which items begin. -/
def offsets (set : List Item) : List (Nat × Item) :=
  (set.foldl (fun (n, found) i => (n + i.count, (n, i) :: found)) (0, [])).2.reverse

/-- What is wrong with a translation from one set to another. -/
def problem? (complemented truncating : Bool) (old new : List Item) (size : Nat) : Option String :=
  let elastic := new.filter Item.isElastic
  let cases := fun (set : List Item) => (offsets set).filter fun (_, i) => i.isCase
  if 1 < elastic.length then some "only one [c*] repeat construct may appear in string2"
  else if new.any fun i => i.isClass && !i.isCase then
    some ("when translating, the only character classes that may appear in\n" ++
      "string2 are 'upper' and 'lower'")
  else if (cases new).any fun (n, _) => !(cases old).any fun (m, _) => m = n then
    some "misaligned [:upper:] and/or [:lower:] construct"
  else if new.isEmpty ∧ !truncating then
    some "when not truncating set1, string2 must be non-empty"
  else if complemented ∧ old.any Item.isClass ∧
      (let image := expand size new
       image.any fun c => some c ≠ image.head?) then
    some ("when translating with complemented character classes,\n" ++
      "string2 must map all characters in the domain to one")
  else none

/-- The pairs of characters of a translation. Classes of letters at the same place of both sets go
together letter by letter. -/
def pairs (old new : List Char) : List (Char × Char) :=
  let last := new.getLast?
  (old.mapIdx fun i c => (c, (new[i]?).or last)).filterMap fun (c, d) => d.map fun d => (c, d)

/-- The character in the place of `c`: what the last pair says. -/
def apply (latestFirst : List (Char × Char)) (c : Char) : Char :=
  (latestFirst.lookup c).getD c

end Translation

/-- A text behind the character `last` without repetitions of characters of a set. -/
def squeeze (set : List Char) (last : Option Char) : List Char → List Char
  | [] => []
  | c :: s =>
    if last = some c ∧ set.contains c then squeeze set last s else c :: squeeze set (some c) s

/-- The filter that changes a text and, if there is a set, leaves out repetitions of its characters.
Its state is the last character. -/
def changeFilter (change : List Char → List Char) (set : Option (List Char)) :
    Filter (Option Char) :=
  Filter.ofPieces none
    (fun last text =>
      let text := change text
      (match set with
        | some set => squeeze set last text
        | none => text,
        text.getLast?.or last))
    (fun _ => [])

def trGrammar : Grammar :=
  ⟨"cCdst", "", "", [("complement", 'c'), ("delete", 'd'), ("squeeze-repeats", 's'),
    ("truncate-set1", 't')]⟩

/-- What is wrong with the number of sets. -/
def trOperandProblem? (o : Options) : Option String :=
  let deletes := o.has 'd'
  let squeezes := o.has 's'
  let least := if deletes == squeezes then 2 else 1
  let most := if deletes && !squeezes then 1 else 2
  match o.rest with
  | [] => some "missing operand"
  | [a] =>
    if least = 2 then
      some ("missing operand after " ++ quoted a ++ "\nTwo strings must be given when " ++
        (if deletes then "both deleting and squeezing repeats." else "translating."))
    else none
  | a :: b :: more =>
    match (if most = 1 then b :: more else more) with
    | [] => none
    | extra :: _ =>
      some ("extra operand " ++ quoted extra ++
        (if most = 1 ∧ (a :: b :: more).length = 2 then
          "\nOnly one string may be given when deleting without squeezing repeats."
        else ""))

/-- What becomes of a text, or what is wrong with the sets. -/
def trChange (o : Options) (first : List CharacterSet.Item)
    (second : Option (List CharacterSet.Item)) : Except String (Filter (Option Char)) := do
  if first.any CharacterSet.Item.isElastic then
    throw "the [c*] repeat construct may not appear in string1"
  let complemented := o.has 'c' || o.has 'C'
  let old := CharacterSet.expand 0 first
  let old := if complemented then CharacterSet.complement old else old
  let new := second.map (CharacterSet.expand old.length)
  let squeezed := fun (set : List Char) => if o.has 's' then some set else none
  if o.has 'd' then
    return changeFilter (·.filter fun c => !old.contains c) (squeezed (new.getD []))
  else
    match second, new with
    | some items, some new =>
      match Translation.problem? complemented (o.has 't') first items old.length with
      | some problem => throw problem
      | none =>
        let old := if o.has 't' then old.take new.length else old
        let table := (Translation.pairs old new).reverse
        return changeFilter (·.map (Translation.apply table)) (squeezed new)
    | _, _ => return changeFilter id (squeezed old)

/-- Replaces, deletes or squeezes characters. -/
def tr : Utility := fun env args => do
  let o := trGrammar.readLeading args
  match o.problem.or (trOperandProblem? o) with
  | some problem => refuse "tr" problem 1
  | none =>
    let sets := o.rest.map fun s : List Char => CharacterSet.unescape (s.length + 1) s
    for (_, dangling) in sets do
      if dangling then warn "tr" "warning: an unescaped backslash at end of string is not portable"
    let parsed := sets.mapM fun (s, _) => CharacterSet.items (s.length + 1) s
    match parsed.bind fun parsed => trChange o (parsed.head?.getD []) parsed[1]? with
    | .error problem =>
      warn "tr" problem
      return 1
    | .ok filter =>
      let blame := fun (_ : List Char) (e : Disk.Error) => "read error: " ++ e.systemText
      filter.feedAll "tr" blame env.cwd 0 none [['-']]

end ProgramRepair.Utility
