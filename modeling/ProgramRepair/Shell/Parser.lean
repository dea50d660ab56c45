import ProgramRepair.Shell.Setting

/-!
# Reading command lines

A script is read line by line: `Parser.nextLine` takes the next complete command
off it, so that a mistake further down is only found when the script has come
there. Words can hold commands and commands hold words, so all readers are
defined together; each call has less `fuel`, of which the length of a script
provides enough.
-/

namespace ProgramRepair.Shell.Parser

mutual

/-- The parts of a word up to the end of its setting. -/
def parts (s : Setting) : Nat → Parser Word
  | 0 => fail "Unterminated quoted string"
  | fuel + 1 => do
    let extended ← isExtended
    match ← peek with
    | none =>
      match s with
      | .bare | .document | .expression => return []
      | s => failWith s.openProblem
    | some c =>
      let next := (← get).input[1]?
      let isOpen := s = .bare || s = .expression
      if extended ∧ s = .bare ∧ (c = '<' ∨ c = '>') ∧ next = some '(' then
        skipMany 2
        let body ← substituted fuel
        return .channel (c = '<') body :: (← parts s fuel)
      else if s.ends c then return []
      else if c = '\\' then
        skip
        match ← peek with
        | none => return consChar '\\' s.quoted []
        | some '\n' => skip; parts s fuel
        | some e =>
          if s.escapes e then
            skip
            return consChar e true (← parts s fuel)
          else return consChar '\\' s.quoted (← parts s fuel)
      else if extended ∧ c = '$' ∧ next = some '\'' ∧ s.hasSingleQuotes then
        skipMany 2
        markOpen
        let inside ← escapedText fuel
        return .text inside true :: (← parts s fuel)
      else if extended ∧ c = '$' ∧ next = some '"' ∧ isOpen then
        skip
        parts s fuel
      else if c = '$' then
        skip
        let first ← dollar s.quoted fuel
        return first :: (← parts s fuel)
      else if c = '\x60' then
        skip
        let text ← graveText s.quoted fuel
        let body ← inner text fuel
        return .output body s.quoted :: (← parts s fuel)
      else if c = '"' ∧ s ≠ .document then
        skip
        markOpen
        let inside ← parts .doubleQuoted fuel
        skip
        let mark := if isAllArguments inside then [] else [.text [] true]
        return mark ++ inside ++ (← parts s fuel)
      else if c = '\'' ∧ s.hasSingleQuotes then
        skip
        let inside ← singleQuoted
        return .text inside true :: (← parts s fuel)
      else
        skip
        return consChar c s.quoted (← parts s fuel)
termination_by structural fuel => fuel

/-- What follows a dollar sign. -/
def dollar (quoted : Bool) : Nat → Parser Part
  | 0 => fail "Bad substitution"
  | fuel + 1 => do
    match ← peek with
    | some '(' =>
      skip
      markOpen
      if ← accept '(' then
        let e ← expression 0 fuel
        return .arithmetic (joinTexts e) quoted
      else return .output (← substituted fuel) quoted
    | some '\x7b' =>
      skip
      markOpen
      braces quoted fuel
    | some '[' =>
      if ← isExtended then
        skip
        let e ← parts (.portion [']'] true) fuel
        skip
        return .arithmetic (joinTexts e) quoted
      else return .text ['$'] quoted
    | some c =>
      if isNameStart c then
        return .variable (.plain (← takeWhile isNameChar)) .value false [] [] quoted
      else if c.isDigit ∨ isSpecial c then
        skip
        return .variable (.plain [c]) .value false [] [] quoted
      else return .text ['$'] quoted
    | none => return .text ['$'] quoted
termination_by structural fuel => fuel

/-- The command that a part stands for, up to its parenthesis. -/
def substituted : Nat → Parser Command
  | 0 => fail "Bad substitution"
  | fuel + 1 => do
    modify fun st => { st with pushed := none }
    let body ← optionalList fuel
    match ← token fuel with
    | .closeParen => modify fun st => { st with pushed := none }
    | .done =>
      markOpen
      failWith (.unclosed ')' "end of file unexpected (expecting \")\")")
    | t => unexpected t (some ")")
    return body
termination_by structural fuel => fuel

/-- What follows a dollar sign and a brace. -/
def braces (quoted : Bool) : Nat → Parser Part
  | 0 => fail "Missing '\x7d'"
  | fuel + 1 => do
    let extended ← isExtended
    let start := (← get).input
    let length : Bool := match start with
      | '#' :: '\x7d' :: _ => false
      | '#' :: c :: _ => isNameChar c || isSpecial c
      | _ => false
    let named : Bool := match start with
      | '!' :: '#' :: '\x7d' :: _ => extended
      | '!' :: c :: _ => extended && isNameChar c
      | _ => false
    if length || named then skip
    let name ← parameterName
    if name = [] then badUse quoted start
    else
      let r ← reference name fuel
      let left := (← get).input
      match named, r, left with
      | true, .elements name joined, '\x7d' :: _ =>
        skip
        return .variable (.elements name joined) .keys false [] [] quoted
      | true, .plain name, '@' :: '\x7d' :: _ | true, .plain name, '*' :: '\x7d' :: _ =>
        skipMany 2
        return .variable (.names name (left.head? = some '*')) .value false [] [] quoted
      | _, _, _ =>
        let r := match named, r with
          | true, .plain name => .named name
          | _, r => r
        if ← accept '\x7d' then
          return .variable r (if length then .length else .value) false [] [] quoted
        else if length then badUse quoted start
        else
          if left.isEmpty then failWith (Setting.braces quoted false).openProblem
          match if extended then wordless? left else none with
          | some (t, signs) =>
            skipMany (signs + 1)
            return .variable r t false [] [] quoted
          | none =>
            match if extended then extendedTreatment? left else none with
            | some (t, signs) =>
              skipMany signs
              treated r t quoted fuel
            | none =>
              match ← treatment? with
              | none => badUse quoted start
              | some (t, orEmpty) =>
                let word ← parts (.braces quoted (isPattern t)) fuel
                skip
                return .variable r t orEmpty (joinTexts word) [] quoted
termination_by structural fuel => fuel

/-- What a name in braces, with a key or without one, is about. -/
def reference (name : List Char) : Nat → Parser Reference
  | 0 => return .plain name
  | fuel + 1 => do
    if (← isExtended) && isName name && (← peek) = some '[' then
      skip
      let key ← parts (.portion [']'] false) fuel
      skip
      match joinTexts key with
      | [.text ['@'] false] => return .elements name false
      | [.text ['*'] false] => return .elements name true
      | key => return .element name key
    else return .plain name
termination_by structural fuel => fuel

/-- The words of a treatment that only the extended language knows. -/
def treated (r : Reference) (t : Treatment) (quoted : Bool) : Nat → Parser Part
  | 0 => fail "Missing '\x7d'"
  | fuel + 1 => do
    let stops : List Char := match t with
      | .replacement _ => ['/', '\x7d']
      | .slice _ => [':', '\x7d']
      | _ => ['\x7d']
    let word ← parts (.portion stops quoted) fuel
    let more := (← peek) ≠ some '\x7d'
    skip
    let second ←
      if more then do
        let second ← parts (.portion ['\x7d'] quoted) fuel
        skip
        pure second
      else pure []
    let t := match t with
      | .slice _ => .slice more
      | t => t
    return .variable r t false (joinTexts word) (joinTexts second) quoted
termination_by structural fuel => fuel

/-- An arithmetic expression up to its two closing parentheses, with `depth` open ones. -/
def expression (depth : Nat) : Nat → Parser Word
  | 0 => fail "Missing '))'"
  | fuel + 1 => do
    match ← peek with
    | none => failWith (.unclosed ')' "Missing '))'")
    | some ')' =>
      skip
      match depth with
      | 0 =>
        if ← accept ')' then return [] else return consChar ')' true (← expression 0 fuel)
      | depth + 1 => return consChar ')' true (← expression depth fuel)
    | some '(' =>
      skip
      return consChar '(' true (← expression (depth + 1) fuel)
    | some '$' =>
      skip
      let first ← dollar true fuel
      return first :: (← expression depth fuel)
    | some '\x60' =>
      skip
      let text ← graveText true fuel
      let body ← inner text fuel
      return .output body true :: (← expression depth fuel)
    | some c =>
      skip
      return consChar c true (← expression depth fuel)
termination_by structural fuel => fuel

/-- A script that stands in a word. -/
def inner (text : List Char) : Nat → Parser Command
  | 0 => fail "Bad substitution"
  | fuel + 1 => do
    let s ← get
    set { Script.ofText s.dialect text s.line s.nextDocument s.aliases with documents := s.documents }
    let body ← lines fuel
    modify fun t => { s with documents := t.documents, nextDocument := t.nextDocument }
    return body
termination_by structural fuel => fuel

/-- All lines that are left. -/
def lines : Nat → Parser Command
  | 0 => return .nothing
  | fuel + 1 => do
    match ← line fuel with
    | none => return .nothing
    | some c => return sequence c (← lines fuel)
termination_by structural fuel => fuel

/-- Reads the input that stands in the script after the end of a line. -/
def pendingDocuments : Nat → Parser Unit
  | 0 => return ()
  | fuel + 1 => do
    match (← get).pending with
    | [] => return ()
    | p :: rest =>
      modify fun s => { s with pending := rest }
      let text ← documentLines p fuel
      let word ←
        if p.literal then pure [.text text true]
        else
          let s ← get
          set { Script.ofText s.dialect text s.line s.nextDocument s.aliases with documents := s.documents }
          let w ← parts .document fuel
          modify fun t => { s with documents := t.documents, nextDocument := t.nextDocument }
          pure (joinTexts w)
      modify fun s => { s with documents := (p.number, word) :: s.documents }
      pendingDocuments fuel
termination_by structural fuel => fuel

/-- The next token. -/
def token : Nat → Parser Token
  | 0 => return .done
  | fuel + 1 => do
    match (← get).pushed with
    | some t =>
      modify fun s => { s with pushed := none }
      return t
    | none =>
      let _ ← takeWhile fun c => c = ' ' ∨ c = '\t'
      let extended ← isExtended
      let input := (← get).input
      match if extended then extendedSign? input else none with
      | some (t, length) =>
        skipMany length
        return t
      | none =>
      match input with
      | [] =>
        pendingDocuments fuel
        return .done
      | '\\' :: '\n' :: _ => skip; skip; token fuel
      | '#' :: _ =>
        let _ ← takeWhile (· ≠ '\n')
        token fuel
      | '\n' :: _ =>
        skip
        pendingDocuments fuel
        return .newline
      | ';' :: ';' :: _ => skip; skip; return .endArm .leave
      | ';' :: _ => skip; return .semicolon
      | '&' :: '&' :: _ => skip; skip; return .and
      | '&' :: _ => skip; return .ampersand
      | '|' :: '|' :: _ => skip; skip; return .or
      | '|' :: _ => skip; return .pipe
      | '(' :: _ => skip; return .openParen
      | ')' :: _ => skip; return .closeParen
      | '<' :: d :: _ | '>' :: d :: _ =>
        if extended ∧ d = '(' then return .word (joinTexts (← parts .bare fuel)) else redirect none
      | '<' :: _ | '>' :: _ => redirect none
      | c :: _ =>
        let ds := input.takeWhile Char.isDigit
        let sign := (input.drop ds.length).head?
        if c.isDigit ∧ (ds.length = 1 ∨ extended) ∧ (sign = some '<' ∨ sign = some '>') then
          skipMany ds.length
          redirect (some (valueInBase 10 ds))
        else return .word (joinTexts (← parts .bare fuel))
termination_by structural fuel => fuel

/-- Passes over line breaks. -/
def newlines : Nat → Parser Unit
  | 0 => return ()
  | fuel + 1 => do
    match ← token fuel with
    | .newline => newlines fuel
    | t => pushBack t
termination_by structural fuel => fuel

/-- Takes a given keyword. -/
def keyword (s : String) : Nat → Parser Unit
  | 0 => fail "Parser stack overflow"
  | fuel + 1 => do
    let t ← token fuel
    if t.isKeyword s then return () else unexpected t (some s)
termination_by structural fuel => fuel

/-- A redirection whose sign is `t`. -/
def redirection (t : Token) : Nat → Parser Redirection
  | 0 => fail "Parser stack overflow"
  | fuel + 1 => do
    match ← token fuel, t with
    | .word w, .document fd dropTabs =>
      let (delimiter, literal) := delimiterOf w
      let s ← get
      let pending := s.pending ++ [⟨s.nextDocument, delimiter, dropTabs, literal⟩]
      set { s with pending, nextDocument := s.nextDocument + 1 }
      return .document (fd.getD 0) s.nextDocument
    | .word w, .redirect fd d =>
      let standard := if d = .input ∨ d = .inputOutput ∨ d = .copyInput then 0 else 1
      return .file (fd.getD standard) d w
    | .word w, .lineOfInput fd => return .line (fd.getD 0) w
    | .word w, .everything atEnd => return .everything atEnd w
    | other, _ => unexpected other none
termination_by structural fuel => fuel

/-- All redirections that follow. -/
def redirections : Nat → Parser (List Redirection)
  | 0 => return []
  | fuel + 1 => do
    match ← token fuel with
    | t@(.redirect _ _) | t@(.document _ _) | t@(.lineOfInput _) | t@(.everything _) =>
      let r ← redirection t fuel
      return r :: (← redirections fuel)
    | t =>
      pushBack t
      return []
termination_by structural fuel => fuel

/-- A list of commands up to a token that ends it. -/
def list : Nat → Parser Command
  | 0 => fail "Parser stack overflow"
  | fuel + 1 => do
    newlines fuel
    match ← token fuel with
    | .done =>
      pushBack .done
      return .nothing
    | t =>
      pushBack t
      let c ← andOr fuel
      match ← token fuel with
      | .ampersand => return sequence (.background c) (← moreList fuel)
      | .semicolon | .newline => return sequence c (← moreList fuel)
      | t =>
        pushBack t
        return c
termination_by structural fuel => fuel

/-- The rest of a list after a separator. -/
def moreList : Nat → Parser Command
  | 0 => return .nothing
  | fuel + 1 => do
    newlines fuel
    let t ← token fuel
    pushBack t
    if endsList t then return .nothing else list fuel
termination_by structural fuel => fuel

/-- A list of commands that may be empty. -/
def optionalList : Nat → Parser Command
  | 0 => return .nothing
  | fuel + 1 => moreList fuel
termination_by structural fuel => fuel

/-- Pipelines, each of which depends on what became of the ones before. -/
def andOr : Nat → Parser Command
  | 0 => fail "Parser stack overflow"
  | fuel + 1 => do
    let first ← pipeline fuel
    moreAndOr first fuel
termination_by structural fuel => fuel

/-- The rest of such a sequence. -/
def moreAndOr (first : Command) : Nat → Parser Command
  | 0 => return first
  | fuel + 1 => do
    match ← token fuel with
    | .and =>
      newlines fuel
      let next ← pipeline fuel
      moreAndOr (.both first next) fuel
    | .or =>
      newlines fuel
      let next ← pipeline fuel
      moreAndOr (.either first next) fuel
    | t =>
      pushBack t
      return first
termination_by structural fuel => fuel

/-- A pipeline, with its status turned round or not. -/
def pipeline : Nat → Parser Command
  | 0 => fail "Parser stack overflow"
  | fuel + 1 => do
    let t ← token fuel
    if t.isKeyword "!" then return .negation (← pipeline fuel)
    else
      pushBack t
      match ← stages fuel with
      | [single] => return single
      | all => return .pipeline all
termination_by structural fuel => fuel

/-- The stages of a pipeline. -/
def stages : Nat → Parser (List Command)
  | 0 => fail "Parser stack overflow"
  | fuel + 1 => do
    let c ← command fuel
    match ← token fuel with
    | .pipe =>
      newlines fuel
      return c :: (← stages fuel)
    | .pipeAll =>
      newlines fuel
      return withErrors c :: (← stages fuel)
    | t =>
      pushBack t
      return [c]
termination_by structural fuel => fuel

/-- A single command. -/
def command : Nat → Parser Command
  | 0 => fail "Parser stack overflow"
  | fuel + 1 => do
    let t ← token fuel
    let start := (← get).line
    match t with
    | .openParen =>
      let expression? ←
        if (← isExtended) && (← peek) = some '(' then calculation? fuel else pure none
      match expression? with
      | some e => return .calculation start e (← redirections fuel)
      | none =>
        let body ← list fuel
        match ← token fuel with
        | .closeParen => return .subshell start body (← redirections fuel)
        | t => unexpected t (some ")")
    | .word w =>
      match keyword? w with
      | none =>
        let extended ← isExtended
        if extended && isSign w "[[" then
          markOpen
          let c ← condition fuel
          match ← token fuel with
          | .word w =>
            if isSign w "]]" then return .condition start c (← redirections fuel)
            else half "" (.word w)
          | t => half "" t
        else if extended && isSign w "function" then
          match ← token fuel with
          | .word w =>
            match ← token fuel with
            | .openParen =>
              match ← token fuel with
              | .closeParen => pure ()
              | t => unexpected t (some ")")
            | t => pushBack t
            newlines fuel
            return .definition (delimiterOf w).1 (← command fuel)
          | t => unexpected t none
        else if ← replaceAlias w then command fuel
        else
          pushBack t
          simple start [] [] [] fuel
      | some "if" => return withRedirections (← conditional fuel) (← redirections fuel)
      | some "while" => repetition false fuel
      | some "until" => repetition true fuel
      | some "for" => iteration start fuel
      | some "case" => selection start fuel
      | some "\x7b" =>
        let body ← list fuel
        keyword "\x7d" fuel
        return .group body (← redirections fuel)
      | some "in" =>
        pushBack t
        simple start [] [] [] fuel
      | some _ => unexpected t none
    | .redirect _ _ | .document _ _ | .lineOfInput _ | .everything _ =>
      pushBack t
      simple start [] [] [] fuel
    | _ => unexpected t none
termination_by structural fuel => fuel

/-- The expression between two parentheses on each side, the first of which was read. There is none
if the parentheses are not closed together. -/
def calculation? : Nat → Parser (Option Word)
  | 0 => return none
  | fuel + 1 => do
    try
      skip
      markOpen
      return some (joinTexts (← expression 0 fuel))
    catch e =>
      match e.problem with
      | .unclosed _ _ => throw e
      | _ => return none
termination_by structural fuel => fuel

/-- Conditions of which one has to hold. -/
def condition : Nat → Parser Condition
  | 0 => fail "Parser stack overflow"
  | fuel + 1 => do
    let first ← conjunction fuel
    match ← token fuel with
    | .or => return .either first (← condition fuel)
    | t =>
      pushBack t
      return first
termination_by structural fuel => fuel

/-- Conditions that all have to hold. -/
def conjunction : Nat → Parser Condition
  | 0 => fail "Parser stack overflow"
  | fuel + 1 => do
    let first ← primary fuel
    newlines fuel
    match ← token fuel with
    | .and => return .both first (← conjunction fuel)
    | t =>
      pushBack t
      return first
termination_by structural fuel => fuel

/-- A single condition, its opposite, or one in parentheses. -/
def primary : Nat → Parser Condition
  | 0 => fail "Parser stack overflow"
  | fuel + 1 => do
    newlines fuel
    match ← token fuel with
    | .openParen =>
      let c ← condition fuel
      match ← token fuel with
      | .closeParen => return c
      | t =>
        half ("unexpected token \x60" ++ String.ofList t.written ++ "', expected \x60)'") t
    | .word w =>
      if isSign w "!" then return .negation (← primary fuel)
      else if isSign w "]]" then half "" (.word w)
      else
        match ← token fuel with
        | .word next =>
          if isSign next "]]" then
            if isUnary w then
              half "unexpected argument \x60]]' to conditional unary operator" (.word next)
            else
              pushBack (.word next)
              return .word w
          else if isSign next "=~" then
            let _ ← takeWhile fun c => c = ' ' ∨ c = '\t'
            let e ← parts .expression fuel
            return .binary "=~".toList w (joinTexts e)
          else
            match plainText? next with
            | some operator =>
              if binaryOperators.contains (String.ofList operator) then
                return .binary operator w (← operand fuel)
              else if isUnary w then return .unary ((plainText? w).getD []) next
              else half "conditional binary operator expected" (.word next)
            | none =>
              if isUnary w then return .unary ((plainText? w).getD []) next
              else half "conditional binary operator expected" (.word next)
        | .redirect none .input => return .binary ['<'] w (← operand fuel)
        | .redirect none .output => return .binary ['>'] w (← operand fuel)
        | t =>
          pushBack t
          return .word w
    | t => half "" t
termination_by structural fuel => fuel

/-- The word behind an operator. -/
def operand : Nat → Parser Word
  | 0 => fail "Parser stack overflow"
  | fuel + 1 => do
    match ← token fuel with
    | .word w =>
      if isSign w "]]" then
        half "unexpected argument \x60]]' to conditional binary operator" (.word w)
      else return w
    | t => half "" t
termination_by structural fuel => fuel

/-- The elements of an array, up to the parenthesis. -/
def elements : Nat → Parser (List Word)
  | 0 => return []
  | fuel + 1 => do
    match ← token fuel with
    | .newline => elements fuel
    | .word w => return w :: (← elements fuel)
    | .closeParen => return []
    | .done => failWith (.unclosed ')' "end of file unexpected")
    | t => unexpected t none
termination_by structural fuel => fuel

/-- A word with the elements that follow it, if it is an assignment without a value. -/
def withElements (inCommand : Bool) (w : Word) : Nat → Parser Word
  | 0 => return w
  | fuel + 1 => do
    if (← isExtended) && inCommand && (← peek) = some '(' &&
        (Assignment.extended? w).any (fun a => a.value.isEmpty) then
      skip
      markOpen
      return w ++ [.list (← elements fuel)]
    else return w
termination_by structural fuel => fuel

/-- The rest of a program with its arguments; what was read of it is in reverse order. -/
def simple (start : Nat) (assignments words : List Word) (rs : List Redirection) :
    Nat → Parser Command
  | 0 => fail "Parser stack overflow"
  | fuel + 1 => do
    let d := (← get).dialect
    match ← token fuel with
    | .word w =>
      let declares := words.getLast?.any fun w =>
        (plainText? w).any fun s => declarations.contains (String.ofList s)
      let w ← withElements (words.isEmpty || declares) w fuel
      match if words.isEmpty then Assignment.ofWord? d w else none with
      | some _ => simple start (w :: assignments) words rs fuel
      | none =>
        let isReplaced ←
          if words.isEmpty && !assignments.isEmpty then replaceAlias w
          else if words.isEmpty then pure false
          else replaceNext w
        if isReplaced then simple start assignments words rs fuel
        else simple start assignments (w :: words) rs fuel
    | t@(.redirect _ _) | t@(.document _ _) | t@(.lineOfInput _) | t@(.everything _) =>
      let r ← redirection t fuel
      simple start assignments words (r :: rs) fuel
    | .openParen =>
      match words, assignments, rs with
      | [w], [], [] =>
        match ← token fuel with
        | .closeParen =>
          match plainText? w with
          | some name =>
            if isFunctionName d name then
              newlines fuel
              return .definition name (← command fuel)
            else fail "Bad function name"
          | none => fail "Bad function name"
        | .word _ => fail "word unexpected (expecting \")\")"
        | t => unexpected t (some ")")
      | _, _, _ => unexpected .openParen none
    | t =>
      pushBack t
      return .simple start assignments.reverse words.reverse rs.reverse
termination_by structural fuel => fuel

/-- What follows `if` or `elif`. -/
def conditional : Nat → Parser Command
  | 0 => fail "Parser stack overflow"
  | fuel + 1 => do
    let test ← list fuel
    keyword "then" fuel
    let body ← list fuel
    let t ← token fuel
    if t.isKeyword "elif" then return .conditional test body (← conditional fuel) []
    else if t.isKeyword "else" then
      let other ← list fuel
      keyword "fi" fuel
      return .conditional test body other []
    else if t.isKeyword "fi" then return .conditional test body .nothing []
    else unexpected t (some "fi")
termination_by structural fuel => fuel

/-- What follows `while` or `until`. -/
def repetition (untilTrue : Bool) : Nat → Parser Command
  | 0 => fail "Parser stack overflow"
  | fuel + 1 => do
    let test ← list fuel
    keyword "do" fuel
    let body ← list fuel
    keyword "done" fuel
    return .repetition untilTrue test body (← redirections fuel)
termination_by structural fuel => fuel

/-- The words of a loop, up to the end of the line. -/
def loopWords : Nat → Parser (List Word)
  | 0 => return []
  | fuel + 1 => do
    match ← token fuel with
    | .word w => return w :: (← loopWords fuel)
    | .semicolon | .newline => return []
    | t => unexpected t none
termination_by structural fuel => fuel

/-- What follows `for`. -/
def iteration (start : Nat) : Nat → Parser Command
  | 0 => fail "Parser stack overflow"
  | fuel + 1 => do
    match ← token fuel with
    | .openParen =>
      let expression? ←
        if (← isExtended) && (← peek) = some '(' then calculation? fuel else pure none
      match expression?.map betweenSemicolons with
      | some [a, b, c] =>
        match ← token fuel with
        | .semicolon => pure ()
        | t => pushBack t
        newlines fuel
        let t ← token fuel
        if t.isKeyword "do" then
          let body ← list fuel
          keyword "done" fuel
          return .counting start a b c body (← redirections fuel)
        else if t.isKeyword "\x7b" then
          let body ← list fuel
          keyword "\x7d" fuel
          return .counting start a b c body (← redirections fuel)
        else unexpected t (some "do")
      | _ => fail "Bad for loop variable"
    | .word w =>
      match plainText? w with
      | some name =>
        if !isName name then fail "Bad for loop variable"
        else
          newlines fuel
          let t ← token fuel
          let words ←
            if t.isKeyword "in" then some <$> loopWords fuel
            else
              match t with
              | .semicolon => pure none
              | t => pushBack t; pure none
          newlines fuel
          keyword "do" fuel
          let body ← list fuel
          keyword "done" fuel
          return .iteration start name words body (← redirections fuel)
      | none => fail "Bad for loop variable"
    | _ => fail "Bad for loop variable"
termination_by structural fuel => fuel

/-- The patterns of an arm, up to the parenthesis. -/
def patterns : Nat → Parser (List Word)
  | 0 => return []
  | fuel + 1 => do
    match ← token fuel with
    | .word w =>
      match ← token fuel with
      | .pipe => return w :: (← patterns fuel)
      | .closeParen => return [w]
      | t => unexpected t (some ")")
    | t => unexpected t (some ")")
termination_by structural fuel => fuel

/-- The arms of a selection. -/
def arms : Nat → Parser (List (List Word × Command × AfterArm))
  | 0 => return []
  | fuel + 1 => do
    newlines fuel
    let t ← token fuel
    if t.isKeyword "esac" then return []
    else
      match t with
      | .openParen => pure ()
      | t => pushBack t
      let ps ← patterns fuel
      let body ← optionalList fuel
      let t ← token fuel
      match t with
      | .endArm after => return (ps, body, after) :: (← arms fuel)
      | t => if t.isKeyword "esac" then return [(ps, body, .leave)] else unexpected t (some ";;")
termination_by structural fuel => fuel

/-- What follows `case`. -/
def selection (start : Nat) : Nat → Parser Command
  | 0 => fail "Parser stack overflow"
  | fuel + 1 => do
    match ← token fuel with
    | .word w =>
      newlines fuel
      keyword "in" fuel
      let as ← arms fuel
      return .selection start w as (← redirections fuel)
    | t => unexpected t none
termination_by structural fuel => fuel

/-- The rest of a line. -/
def moreLine (c : Command) : Nat → Parser Command
  | 0 => return c
  | fuel + 1 => do
    match ← token fuel with
    | .newline | .done => return c
    | .ampersand => return sequence (.background c) (← afterSeparator fuel)
    | .semicolon => return sequence c (← afterSeparator fuel)
    | t => unexpected t none
termination_by structural fuel => fuel

/-- What follows a separator on a line. -/
def afterSeparator : Nat → Parser Command
  | 0 => return .nothing
  | fuel + 1 => do
    match ← token fuel with
    | .newline | .done => return .nothing
    | t =>
      pushBack t
      let c ← andOr fuel
      moreLine c fuel
termination_by structural fuel => fuel

/-- The next line with all that belongs to its commands; none at the end of the script. -/
def line : Nat → Parser (Option Command)
  | 0 => return none
  | fuel + 1 => do
    match ← token fuel with
    | .done => return none
    | .newline => return some .nothing
    | t =>
      pushBack t
      let c ← andOr fuel
      return some (← moreLine c fuel)
termination_by structural fuel => fuel

end

/-- Fuel that suffices to read a script. -/
def fuelFor (s : Script) : Nat := 40 * (s.input.length + 10)

/-- Takes the next complete command off a script. -/
def nextLine (s : Script) : Except SyntaxError (Option Command × Script) :=
  line (fuelFor s) s

end ProgramRepair.Shell.Parser
