import ProgramRepair.Digest.Sum
import ProgramRepair.Utility.Quotation
import ProgramRepair.Utility.Dump
import ProgramRepair.Utility.Errand

/-!
# Checksums

Programs that print digests of files, and that read such lines and check the files
against them.
-/

namespace ProgramRepair.Utility

open Machine

/-- A digest with its names: that of the program, and that in lines with a tag. -/
structure DigestKind where
  program : String
  tag : String
  digest : Bytes → Bytes
  /-- The number of bytes of a digest. -/
  size : Nat

namespace DigestKind

def all : List DigestKind :=
  [⟨"md5sum", "MD5", Digest.md5, 16⟩, ⟨"sha1sum", "SHA1", Digest.sha1, 20⟩,
   ⟨"sha224sum", "SHA224", Digest.sha224, 28⟩, ⟨"sha256sum", "SHA256", Digest.sha256, 32⟩,
   ⟨"sha384sum", "SHA384", Digest.sha384, 48⟩, ⟨"sha512sum", "SHA512", Digest.sha512, 64⟩]

/-- The digest that has no program of its own. -/
def sm3 : DigestKind := ⟨"sm3sum", "SM3", Digest.sm3, 32⟩

/-- The digest that can have any number of bits that are whole bytes, at most 512. -/
def blake2b (bits : Nat) : DigestKind :=
  ⟨"b2sum", if bits = 512 then "BLAKE2b" else "BLAKE2b-" ++ toString bits, Digest.blake2b (bits / 8),
    bits / 8⟩

/-- The kinds of digests that have different lengths. -/
def lengths : List DigestKind := (List.range 64).map fun n => blake2b (512 - 8 * n)

/-- Two digits for each byte. -/
def hex (bytes : Bytes) : List Char :=
  bytes.flatMap fun b => [Nat.digitChar (b.toNat / 16), Nat.digitChar (b.toNat % 16)]

/-- The digits of the digest of a text. -/
def of (k : DigestKind) (text : List Char) : List Char := hex (k.digest (Text.bytesOfChars text))

end DigestKind

/-! ## Lines -/

/-- A name in which line breaks and backslashes are escaped. -/
def escapedName (name : List Char) : List Char :=
  name.flatMap fun c =>
    match c with
    | '\\' => ['\\', '\\']
    | '\n' => ['\\', 'n']
    | '\x0d' => ['\\', 'r']
    | c => [c]

/-- The name that an escaped one stands for. -/
def unescapedName : List Char → List Char
  | '\\' :: '\\' :: s => '\\' :: unescapedName s
  | '\\' :: 'n' :: s => '\n' :: unescapedName s
  | '\\' :: 'r' :: s => '\x0d' :: unescapedName s
  | c :: s => c :: unescapedName s
  | [] => []

/-- How lines are written. -/
structure DigestLayout where
  tagged : Bool
  binary : Bool
  ending : Char

/-- The line of a file. Names that need it are escaped unless lines end with zeros. -/
def DigestKind.line (k : DigestKind) (l : DigestLayout) (name digest : List Char) : List Char :=
  let escapes := l.ending = '\n' ∧ escapedName name ≠ name
  let name := if escapes then escapedName name else name
  let lead := if escapes then ['\\'] else []
  if l.tagged then
    lead ++ k.tag.toList ++ [' ', '('] ++ name ++ [')', ' ', '=', ' '] ++ digest ++ [l.ending]
  else lead ++ digest ++ [' ', if l.binary then '*' else ' '] ++ name ++ [l.ending]

/-- The name and the digest in a line. With `onlyTagged` the kind of the digest has to stand there. -/
def DigestKind.read? (k : DigestKind) (onlyTagged : Bool) (line : List Char) :
    Option (List Char × List Char) :=
  let line := line.dropWhile fun c => c = ' ' || c = '\t'
  let (escaped, line) := match line with
    | '\\' :: rest => (true, rest)
    | line => (false, line)
  let nameOf := fun s => if escaped then unescapedName s else s
  let isDigest := fun s : List Char => s.length = 2 * k.size && s.all isHexDigit
  match Text.dropLead? (k.tag.toList ++ [' ', '(']) line with
  | some rest =>
    let digest := (rest.reverse.takeWhile (· ≠ ' ')).reverse
    let name := rest.take (rest.length - digest.length - 4)
    if isDigest digest ∧ rest.drop name.length = [')', ' ', '=', ' '] ++ digest then
      some (nameOf name, digest)
    else none
  | none =>
    let digest := if onlyTagged then [] else line.take (2 * k.size)
    match line.drop (2 * k.size) with
    | ' ' :: ' ' :: c :: name | ' ' :: '*' :: c :: name =>
      if isDigest digest then some (nameOf (c :: name), digest) else none
    | ' ' :: c :: name => if isDigest digest then some (nameOf (c :: name), digest) else none
    | _ => none

/-! ## Printing -/

/-- Prints the digests of files. -/
def printDigests (k : DigestKind) (program : String) (l : DigestLayout) (env : Surroundings)
    (paths : List (List Char)) : Work Nat := do
  let (texts, code) ← inputs program env.cwd (if paths.isEmpty then [['-']] else paths)
  emit program (texts.flatMap fun (path, text) => k.line l path (k.of text)) code

/-! ## Checking -/

/-- Which digests are checked, and for which program. -/
structure DigestSearch where
  program : String
  kinds : List DigestKind
  /-- What lines are said not to be that make no sense. -/
  tag : String
  /-- Whether lines have to say which digest they have. -/
  onlyTagged : Bool

/-- The kind of a line with the name and the digest. -/
def DigestSearch.read? (q : DigestSearch) (line : List Char) :
    Option (DigestKind × List Char × List Char) :=
  q.kinds.findSome? fun k => (k.read? q.onlyTagged line).map fun found => (k, found)

/-- What has come of checking the lines of a file. -/
structure DigestCheck where
  output : List (List Char)
  /-- The lines that made sense, and those that did not. -/
  good : Nat
  bad : Nat
  unreadable : Nat
  different : Nat
  verified : Nat

/-- A number of things that are one or more. -/
def counted (n : Nat) (one several : String) : String :=
  toString n ++ " " ++ (if n = 1 then one else several)

/-- Checks one file after the other. -/
def checkLines (q : DigestSearch) (o : Options) (env : Surroundings) (source : List Char) :
    (number : Nat) → List (List Char) → DigestCheck → Work DigestCheck
  | _, [], r => return r
  | number, line :: rest, r => do
    if line.head? = some '#' then checkLines q o env source (number + 1) rest r
    else
      match q.read? line with
      | none =>
        if o.has 'w' then
          warn q.program (named source ++ ": " ++ toString number ++ ": improperly formatted " ++
            q.tag ++ " checksum line")
        checkLines q o env source (number + 1) rest { r with bad := r.bad + 1 }
      | some (k, name, digest) =>
        let quiet := o.has 'S'
        let tell := fun (verdict : String) =>
          (if escapedName name = name then [] else ['\\']) ++ escapedName name ++ ": ".toList ++
            verdict.toList ++ ['\n']
        let r := { r with good := r.good + 1 }
        match ← contents env.cwd name with
        | .error e =>
          if o.has 'i' ∧ e = .notFound then checkLines q o env source (number + 1) rest r
          else
            warn q.program (named name ++ ": " ++ e.systemText)
            let output := if quiet then r.output else tell "FAILED open or read" :: r.output
            checkLines q o env source (number + 1) rest
              { r with output, unreadable := r.unreadable + 1 }
        | .ok text =>
          if k.of text = digest.map Char.toLower then
            let output := if quiet ∨ o.has 'q' then r.output else tell "OK" :: r.output
            checkLines q o env source (number + 1) rest
              { r with output, verified := r.verified + 1 }
          else
            let output := if quiet then r.output else tell "FAILED" :: r.output
            checkLines q o env source (number + 1) rest { r with output, different := r.different + 1 }

/-- Checks what is listed in some files. -/
def checkDigests (q : DigestSearch) (o : Options) (env : Surroundings) :
    List (List Char) → (code : Nat) → Work Nat
  | [], code => return code
  | source :: rest, code => do
    match ← contents env.cwd source with
    | .error e =>
      warn q.program (named source ++ ": " ++ e.systemText)
      checkDigests q o env rest 1
    | .ok text =>
      let label := if source = ['-'] then "standard input".toList else source
      let r ← checkLines q o env label 1 (linesOf text) ⟨[], 0, 0, 0, 0, 0⟩
      let printed ← emit q.program r.output.reverse.flatten 0
      let mut failed : Bool := printed ≠ 0
      if r.good = 0 then
        warn q.program (named label ++ ": no properly formatted checksum lines found")
        failed := true
      else
        let status := o.has 'S'
        let warnOf := fun (n : Nat) (text : String) =>
          if n ≠ 0 ∧ !status then warn q.program ("WARNING: " ++ text) else pure ()
        warnOf r.bad (counted r.bad "line is improperly formatted" "lines are improperly formatted")
        warnOf r.unreadable
          (counted r.unreadable "listed file could not be read" "listed files could not be read")
        warnOf r.different (counted r.different "computed checksum did NOT match"
          "computed checksums did NOT match")
        if o.has 'i' ∧ r.verified = 0 then
          if !status then warn q.program (named label ++ ": no file was verified")
          failed := true
        if r.different ≠ 0 ∨ r.unreadable ≠ 0 ∨ (o.has '!' ∧ r.bad ≠ 0) then failed := true
      checkDigests q o env rest (if failed then 1 else code)

/-- The options of checking. -/
def checkingNames : List (String × Char) :=
  [("check", 'c'), ("ignore-missing", 'i'), ("quiet", 'q'), ("status", 'S'), ("strict", '!'),
    ("tag", 'T'), ("warn", 'w'), ("zero", 'z')]

def digestGrammar : Grammar :=
  ⟨"bctwz", "", "", [("binary", 'b'), ("text", 't')] ++ checkingNames⟩

/-- What is wrong with the options if nothing is checked, or if something is. -/
def checkingProblem? (o : Options) : Option String :=
  let meaningful := [('i', "ignore-missing"), ('S', "status"), ('w', "warn"), ('q', "quiet"),
    ('!', "strict")]
  if o.has 'c' then
    if o.has 'T' then some "the --tag option is meaningless when verifying checksums"
    else if o.has 'b' ∨ o.has 't' then
      some "the --binary and --text options are meaningless when verifying checksums"
    else none
  else
    (meaningful.find? fun (c, _) => o.has c).map fun (_, name) =>
      "the --" ++ name ++ " option is meaningful only when verifying checksums"

/-- The files of a call: those that are named, or the standard input. -/
def givenFiles (o : Options) : List (List Char) := if o.rest.isEmpty then [['-']] else o.rest

/-- Prints or checks digests by the options of a call. -/
def digestsOf (k : DigestKind) (kinds : List DigestKind) (o : Options) (env : Surroundings) :
    Work Nat := do
  match o.problem.or (checkingProblem? o) with
  | some problem => refuse k.program problem 1
  | none =>
    if o.has 'c' then checkDigests ⟨k.program, kinds, k.tag, false⟩ o env (givenFiles o) 0
    else
      let isBinary := (o.letters.find? fun c => c = 'b' || c = 't') = some 'b'
      let ending := if o.has 'z' then '\x00' else '\n'
      printDigests k k.program ⟨o.has 'T', isBinary, ending⟩ env o.rest

/-- Prints or checks digests. -/
def digestProgram (k : DigestKind) : Utility := fun env args =>
  digestsOf k [k] (digestGrammar.read args) env

/-- The number of bits that an option asks for, or what is wrong with it. -/
def digestBits (o : Options) : Except (List String) Nat :=
  match o.value? 'l' with
  | none => .ok 512
  | some s =>
    match natural? s with
    | none => .error ["invalid length: " ++ quoted s]
    | some n =>
      if 512 < n then
        .error ["invalid length: " ++ quoted s, "maximum digest length for 'BLAKE2b' is 512 bits"]
      else if n % 8 ≠ 0 then
        .error ["invalid length: " ++ quoted s, "length is not a multiple of 8"]
      else .ok (if n = 0 then 512 else n)

/-- Prints or checks digests that can have several lengths. -/
def b2sum : Utility := fun env args => do
  let o := { digestGrammar with
    valued := "l", long := ("length=", 'l') :: digestGrammar.long }.read args
  match o.problem, digestBits o with
  | none, .error problems =>
    for p in problems do warn "b2sum" p
    return 1
  | _, .ok bits => digestsOf (.blake2b bits) DigestKind.lengths o env
  | some problem, _ => refuse "b2sum" problem 1

/-! ## Short sums -/

/-- A way to sum up a text in a short line, without the name of its file. -/
abbrev ShortSum := Bytes → List Char

/-- The checksum of POSIX and the size. -/
def posixSum : ShortSum := fun bytes =>
  digits (Digest.crc bytes) ++ ' ' :: digits bytes.length

/-- The turning sum and the number of blocks. -/
def turningSum : ShortSum := fun bytes =>
  let sum := digits (Digest.turningSum bytes)
  List.replicate (5 - sum.length) '0' ++ sum ++ ' ' :: padLeft 5 (digits ((bytes.length + 1023) / 1024))

/-- The folded sum and the number of blocks. -/
def foldedSum : ShortSum := fun bytes =>
  digits (Digest.foldedSum bytes) ++ ' ' :: digits ((bytes.length + 511) / 512)

/-- Prints short sums of files, with their names if they are given. -/
def printShortSums (program : String) (s : ShortSum) (env : Surroundings)
    (paths : List (List Char)) : Work Nat := do
  let (texts, code) ← inputs program env.cwd (if paths.isEmpty then [['-']] else paths)
  let lines := texts.map fun (path, text) =>
    s (Text.bytesOfChars text) ++ (if paths.isEmpty then [] else ' ' :: path)
  emit program (unlines lines) code

/-- Prints sums of 16 bits. -/
def sumProgram : Utility := fun env args =>
  let o := Grammar.read ⟨"rs", "", "", [("sysv", 's')]⟩ args
  match o.problem with
  | some problem => refuse "sum" problem 1
  | none =>
    let last := o.letters.head?
    printShortSums "sum" (if last = some 's' then foldedSum else turningSum) env o.rest

/-- A way to compute a sum. -/
inductive SumKind where
  | short (s : ShortSum)
  | digest (k : DigestKind)

/-- The names of the ways to compute a sum. -/
def sumKinds : Choices SumKind :=
  singly ([("bsd", SumKind.short turningSum), ("sysv", .short foldedSum), ("crc", .short posixSum)] ++
    (DigestKind.all.map fun k => (k.program.dropEnd 3 |>.toString, SumKind.digest k)) ++
    [("blake2b", .digest (.blake2b 512)), ("sm3", .digest .sm3)])

def cksumGrammar : Grammar :=
  ⟨"cwz", "al", "", [("algorithm=", 'a'), ("length=", 'l'), ("untagged", 'u'), ("debug", 'D')] ++
    checkingNames⟩

/-- What is said about a length of digests that have only one. -/
def lengthProblem : String := "--length is only supported with --algorithm=blake2b"

/-- Prints or checks sums of files in some way. With nothing said about it that of POSIX is printed,
and whatever lines say that they have is checked. -/
def cksum : Utility := fun env args => do
  let o := cksumGrammar.read args
  let usual := (o.letters.find? fun c => c = 'u' || c = 'T') ≠ some 'u'
  let layout : DigestLayout := ⟨usual, false, if o.has 'z' then '\x00' else '\n'⟩
  let check := fun (tag : String) (kinds : List DigestKind) (onlyTagged : Bool) =>
    match checkingProblem? o with
    | some problem => refuse "cksum" problem 1
    | none => checkDigests ⟨"cksum", kinds, tag, onlyTagged⟩ o env (givenFiles o) 0
  match o.problem, chooseExactly "--algorithm" sumKinds ((o.value? 'a').getD "crc".toList), digestBits o with
  | some problem, _, _ | none, .error problem, _ => refuse "cksum" problem 1
  | none, .ok (.short s), _ =>
    if o.has 'c' ∧ (o.value? 'a').isSome then
      warn "cksum" "--check is not supported with --algorithm=\x7bbsd,sysv,crc\x7d"
      return 1
    else if o.has 'l' then
      warn "cksum" lengthProblem
      return 1
    else if !o.has 'c' then
      match checkingProblem? o with
      | some problem => refuse "cksum" problem 1
      | none => printShortSums "cksum" s env o.rest
    else if (o.value? 'a').isSome then
      warn "cksum" "--check is not supported with --algorithm={bsd,sysv,crc}"
      return 1
    else check "CRC" (DigestKind.all ++ .sm3 :: DigestKind.lengths) true
  | none, .ok (.digest k), bits =>
    let isFixed := k.program ≠ "b2sum"
    match bits with
    | .error problems =>
      for p in problems do warn "cksum" p
      return 1
    | .ok bits =>
      let k := if isFixed then k else .blake2b bits
      if isFixed ∧ o.has 'l' then
        warn "cksum" lengthProblem
        return 1
      else if o.has 'c' then check k.tag (if isFixed then [k] else DigestKind.lengths) false
      else
        match checkingProblem? o with
        | some problem => refuse "cksum" problem 1
        | none => printDigests k "cksum" layout env o.rest

end ProgramRepair.Utility
