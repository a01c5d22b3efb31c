import CwlCompliance.Script.Syntax

/-!
# Reading scripts

How the text of a script is read.  Complete lines are read one after another, so that what stands
before a fault in the syntax is read all the same.

## Main definitions

* `Cursor`, `Token` — what is left to read, and what stands there.
* `Reader.parts` — the parts of a word.
* `Reader.commands` — commands one after another.
* `Script.ofText` — the script that a text writes.
-/

namespace CwlCompliance.Script

/-- What is left to read of a script. -/
structure Cursor where
  /-- The characters that are left. -/
  rest : List Char
  /-- The line of the first of them. -/
  line : Nat := 1
  /-- How many lines are left out before the next line. -/
  hidden : Nat := 0

/-- What is read, or what is wrong, with its line. -/
abbrev Reading := Except (Nat × SyntaxFault)

/-- The sign of a redirection, and the stream that it is about. -/
structure Arrow where
  /-- The stream. -/
  stream : Nat
  /-- The sign. -/
  sign : String

/-- A token of a script. -/
inductive Token where
  /-- A word. -/
  | word (w : Word)
  /-- The sign of a redirection. -/
  | redirect (a : Arrow)
  /-- Any other sign. -/
  | sign (s : String)
  /-- The end of a line. -/
  | newline
  /-- The end of the script. -/
  | finish

/-! ### Characters -/

/-- Whether a character is a blank within a line. -/
def isBlank (c : Char) : Bool := c = ' ' || c = '\t'

/-- Whether a character ends a word that is not quoted. -/
def endsWord (c : Char) : Bool := isBlank c || "\n;&|<>()".toList.contains c

/-- Whether a name can start with a character. -/
def startsName (c : Char) : Bool := c.isAlpha || c = '_'

/-- Whether a name can go on with a character. -/
def continuesName (c : Char) : Bool := c.isAlphanum || c = '_'

/-- Whether characters make up the name of a variable. -/
def isName : List Char → Bool
  | [] => false
  | c :: rest => startsName c && rest.all continuesName

/-- Whether a character alone names a parameter. -/
def isSpecial (c : Char) : Bool := c.isDigit || "@*#?-$!".toList.contains c

/-- The words that have a meaning of their own where a command can start. -/
def keywords : List String := [
  "!", "case", "do", "done", "elif", "else", "esac", "fi", "for", "if", "in", "then", "until", "while",
  "\x7b", "\x7d"]

/-- The keywords that end a list of commands. -/
def closers : List String := ["do", "done", "elif", "else", "esac", "fi", "then", "\x7d"]

/-! ### Words -/

namespace Word

/-- The characters of a word of which nothing is quoted or expanded. -/
def bare? : Word → Option (List Char)
  | [] => some []
  | .text cs false :: rest => (bare? rest).map (cs ++ ·)
  | _ => none

/-- The characters of a word without its quotes, for words that are not expanded. -/
def characters : Word → List Char
  | [] => []
  | .text cs _ :: rest => cs ++ characters rest
  | _ :: rest => characters rest

/-- Whether anything in a word is quoted. -/
def hasQuotes : Word → Bool
  | [] => false
  | .text _ true :: _ => true
  | _ :: rest => hasQuotes rest

/-- The keyword that a word is. -/
def keyword? (w : Word) : Option String :=
  match bare? w with
  | some cs => keywords.find? (· = String.ofList cs)
  | none => none

/-- The name and the value of an assignment, if a word is one. -/
def assignment? : Word → Option (String × Word)
  | .text cs false :: rest =>
    let name := cs.takeWhile (· ≠ '=')
    match cs.drop name.length with
    | '=' :: value =>
      if isName name then
        some (String.ofList name, if value.isEmpty then rest else .text value false :: rest)
      else none
    | _ => none
  | _ => none

/-- The parts so far, the last first, with one more character. -/
def addChar (c : Char) (isQuoted : Bool) : List Part → List Part
  | .text cs q :: rest => if q = isQuoted then .text (cs ++ [c]) q :: rest else .text [c] isQuoted :: .text cs q :: rest
  | parts => .text [c] isQuoted :: parts

end Word

namespace Token

/-- How a token is called. -/
def name : Token → String
  | word w =>
    match Word.keyword? w with
    | some k => "\"" ++ k ++ "\""
    | none => "word"
  | redirect .. => "redirection"
  | sign s => "\"" ++ s ++ "\""
  | newline => "newline"
  | finish => "end of file"

/-- The keyword that a token is. -/
def keyword? : Token → Option String
  | word w => Word.keyword? w
  | _ => none

/-- Whether a token is a sign. -/
def isSign (s : String) : Token → Bool
  | sign t => t = s
  | _ => false

/-- Whether a token is the end of the script. -/
def isFinish : Token → Bool
  | finish => true
  | _ => false

/-- Whether no list of commands goes on with a token. -/
def isCloser (t : Token) : Bool :=
  match t with
  | finish => true
  | sign s => s = ")" || s = ";;"
  | _ => t.keyword?.any closers.contains

end Token

/-! ### Surroundings of characters -/

/-- What stands around characters of a word. -/
inductive Context where
  /-- Nothing. -/
  | plain
  /-- Double quotes. -/
  | double
  /-- The braces of a parameter, which may stand in double quotes. -/
  | braces (isQuoted : Bool)
  /-- An arithmetic expression, in which so many parentheses are open. -/
  | sum (depth : Nat)
  /-- A text in the script. -/
  | document

namespace Context

/-- Whether characters are quoted. -/
def isQuoted : Context → Bool
  | plain => false
  | braces q => q
  | _ => true

/-- Whether the next characters end it. -/
def ends : Context → List Char → Bool
  | plain, c :: _ => endsWord c
  | double, c :: _ => c = '\x22'
  | braces _, c :: _ => c = '\x7d'
  | sum 0, ')' :: ')' :: _ => true
  | _, _ => false

/-- Whether a backslash quotes a character. -/
def escapes (context : Context) (c : Char) : Bool :=
  match context with
  | plain => true
  | braces false => true
  | braces true => "$\x60\\\x22\x7d".toList.contains c
  | document => "$\x60\\".toList.contains c
  | _ => "$\x60\\\x22".toList.contains c

/-- Whether single quotes have a meaning. -/
def hasSingleQuotes : Context → Bool
  | plain => true
  | braces q => !q
  | _ => false

/-- Whether double quotes start something. -/
def hasDoubleQuotes : Context → Bool
  | plain => true
  | braces _ => true
  | _ => false

/-- What is wrong if the script ends in it. -/
def unfinished? : Context → Option SyntaxFault
  | double => some (.other "Unterminated quoted string")
  | braces _ => some (.other "Missing '\x7d'")
  | sum _ => some (.other "Missing '))'")
  | _ => none

end Context

namespace Cursor

/-- The cursor after so many characters. -/
def skip : Nat → Cursor → Cursor
  | 0, c => c
  | n + 1, c =>
    match c.rest with
    | [] => c
    | '\n' :: rest => skip n { rest, line := c.line + 1 + c.hidden }
    | _ :: rest => skip n { c with rest }

/-- The fault at a cursor. -/
def fault (c : Cursor) (f : SyntaxFault) : Nat × SyntaxFault := (c.line, f)

end Cursor

/-- The characters before a single quote, and what follows the quote. -/
def singleQuoted? : List Char → Option (List Char × List Char)
  | [] => none
  | '\x27' :: rest => some ([], rest)
  | c :: rest => (singleQuoted? rest).map fun (cs, rest) => (c :: cs, rest)

/-- The characters before a backquote, what is escaped in them read, and what follows the quote. -/
def backquoted? (inDouble : Bool) : List Char → Option (List Char × List Char)
  | [] => none
  | '\x60' :: rest => some ([], rest)
  | '\\' :: c :: rest =>
    (backquoted? inDouble rest).map fun (cs, rest) =>
      (if "$\x60\\".toList.contains c || (inDouble && c = '\x22') then (c :: cs, rest)
      else ('\\' :: c :: cs, rest))
  | c :: rest => (backquoted? inDouble rest).map fun (cs, rest) => (c :: cs, rest)

/-- The name in braces: a name, a number, or one character. -/
def bracedName : List Char → List Char
  | [] => []
  | c :: rest =>
    if startsName c then c :: rest.takeWhile continuesName
    else if c.isDigit then c :: rest.takeWhile Char.isDigit
    else if isSpecial c then [c]
    else []

/-- The use that stands after a name in braces, and how many characters write it. -/
def use? : List Char → Option ((Word → Use) × Nat)
  | ':' :: '-' :: _ => some (.orWord true, 2)
  | ':' :: '=' :: _ => some (.assign true, 2)
  | ':' :: '?' :: _ => some (.require true, 2)
  | ':' :: '+' :: _ => some (.ifSet true, 2)
  | '-' :: _ => some (.orWord false, 1)
  | '=' :: _ => some (.assign false, 1)
  | '?' :: _ => some (.require false, 1)
  | '+' :: _ => some (.ifSet false, 1)
  | '%' :: '%' :: _ => some (.dropEnd true, 2)
  | '%' :: _ => some (.dropEnd false, 1)
  | '#' :: '#' :: _ => some (.dropStart true, 2)
  | '#' :: _ => some (.dropStart false, 1)
  | _ => none

/-! ### Texts in the script -/

/-- The lines up to one that is a delimiter, and what follows it, with the number of lines read. -/
def linesUntil (stripTabs : Bool) (delimiter : List Char) :
    Nat → List Char → List Char × List Char × Nat
  | 0, rest => ([], rest, 0)
  | n + 1, rest =>
    if rest.isEmpty then ([], [], 0)
    else
      let raw := rest.takeWhile (· ≠ '\n')
      let after := rest.drop (raw.length + 1)
      let line := if stripTabs then raw.dropWhile (· = '\t') else raw
      if line = delimiter then ([], after, 1)
      else
        let (lines, left, count) := linesUntil stripTabs delimiter n after
        (line ++ '\n' :: lines, left, count + 1)

/-- The text that starts on the next line and ends with a delimiter; it is taken out of the script. -/
def documentAt (stripTabs : Bool) (delimiter : List Char) (c : Cursor) : List Char × Cursor :=
  let here := c.rest.takeWhile (· ≠ '\n')
  let below := c.rest.drop (here.length + 1)
  let (content, left, count) := linesUntil stripTabs delimiter (below.length + 1) below
  (content, { c with rest := here ++ '\n' :: left, hidden := c.hidden + count })

/-! ### Tokens -/

/-- The cursor after blanks and a comment. -/
def afterBlanks : Nat → Cursor → Cursor
  | 0, c => c
  | n + 1, c =>
    match c.rest with
    | '\\' :: '\n' :: _ => afterBlanks n (c.skip 2)
    | '#' :: rest => { c with rest := rest.dropWhile (· ≠ '\n') }
    | b :: rest => if isBlank b then afterBlanks n { c with rest } else c
    | [] => c

/-- The signs, longer ones before those that they start with. -/
def signs : List String := [";;", ";", "&&", "&", "||", "|", "(", ")"]

/-- The signs of redirections. -/
def redirectionSigns : List String := ["<<-", "<<", "<&", "<>", "<", ">>", ">&", ">|", ">"]

/-- The first of some signs that starts a text. -/
def signAt? (among : List String) (cs : List Char) : Option String :=
  among.find? fun s => s.toList.isPrefixOf cs

/-- The token that a sign of a redirection is; it is about its usual stream if none is named. -/
def redirectToken (stream? : Option Nat) (sign : String) : Token :=
  .redirect ⟨stream?.getD (if sign.startsWith "<" then 0 else 1), sign⟩

/-- The token at a cursor, unless a word stands there. -/
def signToken? (c : Cursor) : Option (Token × Cursor) :=
  match c.rest with
  | [] => some (.finish, c)
  | '\n' :: _ => some (.newline, c.skip 1)
  | d :: rest =>
    match signAt? signs c.rest with
    | some s => some (.sign s, c.skip s.length)
    | none =>
      match signAt? redirectionSigns c.rest with
      | some s => some (redirectToken none s, c.skip s.length)
      | none =>
        if d.isDigit then
          match signAt? redirectionSigns rest with
          | some s => some (redirectToken (some (d.toNat - 48)) s, c.skip (1 + s.length))
          | none => none
        else none

/-- What a redirection means, given the word after its sign. -/
def Arrow.redirection (a : Arrow) (w : Word) : Redirection :=
  match a.sign with
  | "<" => .file a.stream .read w
  | "<>" => .file a.stream .update w
  | ">>" => .file a.stream .append w
  | "<&" | ">&" => .copy a.stream w
  | _ => .file a.stream .write w

/-- The names that no function can have. -/
def specialBuiltins : List String := [
  ".", ":", "break", "continue", "eval", "exec", "exit", "export", "readonly", "return", "set", "shift",
  "times", "trap", "unset"]

/-! ### Grammar -/

namespace Reader

/-- What is wrong with a token where something else is expected. -/
def wrong (t : Token) (expected : String) (c : Cursor) : Nat × SyntaxFault :=
  c.fault (.unexpectedFor t.name expected)

/-- What is wrong with a token that cannot stand where it does. -/
def misplaced (t : Token) (c : Cursor) : Nat × SyntaxFault := c.fault (.unexpected t.name)

mutual

/-- The parts of a word, up to the end of its context. -/
def parts (context : Context) : Nat → List Part → Cursor → Reading (Word × Cursor)
  | 0, _, c => .error (c.fault (.other "too long"))
  | fuel + 1, acc, c =>
    if context.ends c.rest then .ok (acc.reverse, c)
    else
      match c.rest with
      | [] =>
        match context.unfinished? with
        | some f => .error (c.fault f)
        | none => .ok (acc.reverse, c)
      | '\\' :: '\n' :: _ => parts context fuel acc (c.skip 2)
      | '\\' :: e :: _ =>
        if context.escapes e then parts context fuel (Word.addChar e true acc) (c.skip 2)
        else parts context fuel (Word.addChar '\\' true acc) (c.skip 1)
      | '\x27' :: rest =>
        if context.hasSingleQuotes then
          match singleQuoted? rest with
          | none => .error (c.fault (.other "Unterminated quoted string"))
          | some (cs, _) =>
            parts context fuel (.text cs true :: acc) (c.skip (cs.length + 2))
        else parts context fuel (Word.addChar '\x27' context.isQuoted acc) (c.skip 1)
      | '\x22' :: _ =>
        if context.hasDoubleQuotes then do
          let (inner, d) ← parts .double fuel [] (c.skip 1)
          let inner := if inner.isEmpty then [.text [] true] else inner
          parts context fuel (inner.reverse ++ acc) (d.skip 1)
        else parts context fuel (Word.addChar '\x22' context.isQuoted acc) (c.skip 1)
      | '$' :: _ => do
        let (part?, d) ← expansion context.isQuoted fuel (c.skip 1)
        match part? with
        | some part => parts context fuel (part :: acc) d
        | none => parts context fuel (Word.addChar '$' true acc) d
      | '\x60' :: rest =>
        match backquoted? context.isQuoted rest with
        | none => .error (c.fault (.other "EOF in backquote substitution"))
        | some (cs, left) => do
          let (inner, d) ← commands true fuel { rest := cs, line := c.line }
          let (t, _) ← token fuel d
          match t with
          | .finish =>
            parts context fuel (.output inner context.isQuoted :: acc)
              (c.skip (c.rest.length - left.length))
          | t => .error (misplaced t d)
      | ch :: _ =>
        let deeper : Context := match context, ch with
          | .sum n, '(' => .sum (n + 1)
          | .sum n, ')' => .sum (n - 1)
          | context, _ => context
        parts deeper fuel (Word.addChar ch context.isQuoted acc) (c.skip 1)

/-- The expansion after a dollar sign, if there is one. -/
def expansion (isQuoted : Bool) : Nat → Cursor → Reading (Option Part × Cursor)
  | 0, c => .error (c.fault (.other "too long"))
  | fuel + 1, c =>
    match c.rest with
    | '(' :: '(' :: _ => do
      let (w, d) ← parts (.sum 0) fuel [] (c.skip 2)
      return (some (.value w isQuoted), d.skip 2)
    | '(' :: _ => do
      let (inner, d) ← commands true fuel (c.skip 1)
      let (t, e) ← token fuel d
      if t.isSign ")" then return (some (.output inner isQuoted), e)
      else throw (wrong t "\")\"" d)
    | '\x7b' :: _ => braced isQuoted fuel (c.skip 1)
    | ch :: rest =>
      if startsName ch then
        let name := ch :: rest.takeWhile continuesName
        .ok (some (.parameter (String.ofList name) .plain isQuoted), c.skip name.length)
      else if isSpecial ch then
        .ok (some (.parameter (String.singleton ch) .plain isQuoted), c.skip 1)
      else .ok (none, c)
    | [] => .ok (none, c)

/-- The expansion after a dollar sign and a brace. -/
def braced (isQuoted : Bool) : Nat → Cursor → Reading (Option Part × Cursor)
  | 0, c => .error (c.fault (.other "too long"))
  | fuel + 1, c =>
    let measured := bracedName (c.rest.drop 1)
    if c.rest.head? = some '#' ∧ !measured.isEmpty ∧ (c.rest.drop (1 + measured.length)).head? = some '\x7d' then
      .ok (some (.parameter (String.ofList measured) .length isQuoted), c.skip (measured.length + 2))
    else
      let name := bracedName c.rest
      let d := c.skip name.length
      if d.rest.head? = some '\x7d' ∧ !name.isEmpty then
        .ok (some (.parameter (String.ofList name) .plain isQuoted), d.skip 1)
      else
        match (if name.isEmpty then none else use? d.rest) with
        | some (use, width) => do
          let (w, e) ← parts (.braces isQuoted) fuel [] (d.skip width)
          return (some (.parameter (String.ofList name) (use w) isQuoted), e.skip 1)
        | none => do
          let (_, e) ← parts (.braces isQuoted) fuel [] d
          return (some .invalid, e.skip 1)

/-- The token at a cursor. -/
def token : Nat → Cursor → Reading (Token × Cursor)
  | 0, c => .error (c.fault (.other "too long"))
  | fuel + 1, c =>
    let c := afterBlanks c.rest.length c
    match signToken? c with
    | some found => .ok found
    | none => do
      let (w, d) ← parts .plain fuel [] c
      return (.word w, d)

/-- The redirection after its sign. -/
def redirection (a : Arrow) : Nat → Cursor → Reading (Redirection × Cursor)
  | 0, c => .error (c.fault (.other "too long"))
  | fuel + 1, c => do
    match ← token fuel c with
    | (.word w, d) =>
      if a.sign = "<<" ∨ a.sign = "<<-" then
        let (content, e) := documentAt (a.sign = "<<-") (Word.characters w) d
        if Word.hasQuotes w then return (.text a.stream [.text content true], e)
        else
          let (inner, _) ← parts .document fuel [] { rest := content, line := d.line }
          return (.text a.stream inner, e)
      else return (a.redirection w, d)
    | (t, _) => throw (misplaced t c)

/-- The redirections at a cursor. -/
def redirections : Nat → Cursor → Reading (List Redirection × Cursor)
  | 0, c => .error (c.fault (.other "too long"))
  | fuel + 1, c => do
    match ← token fuel c with
    | (.redirect a, d) =>
      let (r, d) ← redirection a fuel d
      let (rest, d) ← redirections fuel d
      return (r :: rest, d)
    | _ => return ([], c)

/-- The token after ends of lines. -/
def tokenBelow : Nat → Cursor → Reading (Token × Cursor)
  | 0, c => .error (c.fault (.other "too long"))
  | fuel + 1, c => do
    match ← token fuel c with
    | (.newline, d) => tokenBelow fuel d
    | (t, d) => return (t, d)

/-- A keyword that has to come next. -/
def expect (keyword : String) : Nat → Cursor → Reading (Unit × Cursor)
  | 0, c => .error (c.fault (.other "too long"))
  | fuel + 1, c => do
    let (t, d) ← tokenBelow fuel c
    if t.keyword? = some keyword then return ((), d)
    else throw (wrong t ("\"" ++ keyword ++ "\"") d)

/-- The rest of a simple command. -/
def simpleCommand (start : Cursor) : Nat → List (String × Word) → List Word → List Redirection → Cursor →
    Reading (Command × Cursor)
  | 0, _, _, _, c => .error (c.fault (.other "too long"))
  | fuel + 1, assignments, words, rs, c => do
    match ← token fuel c with
    | (.word w, d) =>
      match (if words.isEmpty then Word.assignment? w else none) with
      | some a => simpleCommand start fuel (assignments ++ [a]) words rs d
      | none => simpleCommand start fuel assignments (words ++ [w]) rs d
    | (.redirect a, d) =>
      let (r, d) ← redirection a fuel d
      simpleCommand start fuel assignments words (rs ++ [r]) d
    | (.sign "(", d) =>
      match assignments, words, rs with
      | [], [w], [] =>
        let (t, e) ← token fuel d
        if !t.isSign ")" then throw (wrong t "\")\"" d)
        match Word.bare? w with
        | some name =>
          if isName name && !specialBuiltins.contains (String.ofList name) then
            let (_, e) ← belowLines fuel e
            let (body, e) ← command fuel e
            return (.define (String.ofList name) body, e)
          else throw (d.fault (.other "Bad function name"))
        | none => throw (d.fault (.other "Bad function name"))
      | _, _, _ => throw (misplaced (.sign "(") c)
    | _ => return (.simple start.line assignments words rs, c)

/-- The cursor after ends of lines. -/
def belowLines : Nat → Cursor → Reading (Unit × Cursor)
  | 0, c => .error (c.fault (.other "too long"))
  | fuel + 1, c => do
    match ← token fuel c with
    | (.newline, d) => belowLines fuel d
    | _ => return ((), c)

/-- A choice after its first keyword, or after the keyword of a further case. -/
def choice : Nat → Cursor → Reading (Command × Cursor)
  | 0, c => .error (c.fault (.other "too long"))
  | fuel + 1, c => do
    let (test, c) ← commands false fuel c
    let (_, c) ← expect "then" fuel c
    let (yes, c) ← commands false fuel c
    let (t, d) ← tokenBelow fuel c
    match t.keyword? with
    | some "elif" =>
      let (no, d) ← choice fuel d
      return (.choice test yes [no], d)
    | some "else" =>
      let (no, d) ← commands false fuel d
      let (_, d) ← expect "fi" fuel d
      return (.choice test yes no, d)
    | some "fi" => return (.choice test yes [], d)
    | _ => throw (wrong t "\"fi\"" d)

/-- The words that the body of a loop is run for, up to the end of the line. -/
def loopWords : Nat → List Word → Cursor → Reading (List Word × Cursor)
  | 0, _, c => .error (c.fault (.other "too long"))
  | fuel + 1, acc, c => do
    match ← token fuel c with
    | (.word w, d) => loopWords fuel (acc ++ [w]) d
    | (.newline, d) => return (acc, d)
    | (t, d) => if t.isSign ";" then return (acc, d) else throw (misplaced t d)

/-- A loop over words after its keyword. -/
def eachLoop : Nat → Cursor → Reading (Command × Cursor)
  | 0, c => .error (c.fault (.other "too long"))
  | fuel + 1, c => do
    match ← token fuel c with
    | (.word w, d) =>
      match Word.bare? w with
      | some name =>
        if !isName name then throw (d.fault (.other "Bad for loop variable"))
        let (t, e) ← tokenBelow fuel d
        let (words?, e) ←
          if t.keyword? = some "in" then do
            let (words, e) ← loopWords fuel [] e
            pure (some words, e)
          else if t.isSign ";" then pure (none, e)
          else pure (none, d)
        let (_, e) ← expect "do" fuel e
        let (body, e) ← commands false fuel e
        let (_, e) ← expect "done" fuel e
        return (.each c.line (String.ofList name) words? body, e)
      | none => throw (d.fault (.other "Bad for loop variable"))
    | (_, d) => throw (d.fault (.other "Bad for loop variable"))

/-- The patterns of an arm, up to the parenthesis. -/
def armPatterns : Nat → Cursor → Reading (List Word × Cursor)
  | 0, c => .error (c.fault (.other "too long"))
  | fuel + 1, c => do
    match ← token fuel c with
    | (.word w, d) =>
      let (t, e) ← token fuel d
      if t.isSign "|" then
        let (rest, e) ← armPatterns fuel e
        return (w :: rest, e)
      else if t.isSign ")" then return ([w], e)
      else throw (wrong t "\")\"" d)
    | (t, d) => throw (wrong t "word" d)

/-- The arms of a selection. -/
def arms : Nat → Cursor → Reading (List (List Word × List Command) × Cursor)
  | 0, c => .error (c.fault (.other "too long"))
  | fuel + 1, c => do
    let (t, d) ← tokenBelow fuel c
    if t.keyword? = some "esac" then return ([], d)
    let (_, below) ← belowLines fuel c
    let (patterns, d) ← armPatterns fuel (if t.isSign "(" then d else below)
    let (body, d) ← commands true fuel d
    let (t, e) ← tokenBelow fuel d
    if t.keyword? = some "esac" then return ([(patterns, body)], e)
    else if t.isSign ";;" then
      let (rest, e) ← arms fuel e
      return ((patterns, body) :: rest, e)
    else throw (wrong t "\";;\"" e)

/-- A selection after its keyword. -/
def selection : Nat → Cursor → Reading (Command × Cursor)
  | 0, c => .error (c.fault (.other "too long"))
  | fuel + 1, c => do
    match ← token fuel c with
    | (.word w, d) =>
      let (_, d) ← expect "in" fuel d
      let (cases, d) ← arms fuel d
      return (.select c.line w cases, d)
    | (t, d) => throw (wrong t "word" d)

/-- A loop with a condition after its keyword. -/
def conditionLoop (isUntil : Bool) : Nat → Cursor → Reading (Command × Cursor)
  | 0, c => .error (c.fault (.other "too long"))
  | fuel + 1, c => do
    let (test, c) ← commands false fuel c
    let (_, c) ← expect "do" fuel c
    let (body, c) ← commands false fuel c
    let (_, c) ← expect "done" fuel c
    return (.loop isUntil test body, c)

/-- A command that starts with a keyword or a parenthesis, if one stands there. -/
def compound? : Nat → Cursor → Reading (Option Command × Cursor)
  | 0, c => .error (c.fault (.other "too long"))
  | fuel + 1, c => do
    let (t, d) ← token fuel c
    let whole := fun (r : Command × Cursor) => (some r.1, r.2)
    match t.keyword? with
    | some "if" => return whole (← choice fuel d)
    | some "while" => return whole (← conditionLoop false fuel d)
    | some "until" => return whole (← conditionLoop true fuel d)
    | some "for" => return whole (← eachLoop fuel d)
    | some "case" => return whole (← selection fuel d)
    | some "\x7b" =>
      let (body, d) ← commands false fuel d
      let (_, d) ← expect "\x7d" fuel d
      return (some (.sequence body), d)
    | some _ => throw (misplaced t d)
    | none =>
      if t.isSign "(" then
        let (body, d) ← commands false fuel d
        let (t, e) ← tokenBelow fuel d
        if t.isSign ")" then return (some (.subshell body), e) else throw (wrong t "\")\"" d)
      else return (none, c)

/-- A command. -/
def command : Nat → Cursor → Reading (Command × Cursor)
  | 0, c => .error (c.fault (.other "too long"))
  | fuel + 1, c => do
    match ← compound? fuel c with
    | (some body, d) =>
      let (rs, e) ← redirections fuel d
      return (if rs.isEmpty then body else .redirected d.line body rs, e)
    | (none, _) =>
      match ← token fuel c with
      | (.word _, _) | (.redirect .., _) =>
        simpleCommand (afterBlanks c.rest.length c) fuel [] [] [] c
      | (t, d) => throw (misplaced t d)

/-- The further commands of a pipeline. -/
def pipes : Nat → Cursor → Reading (List Command × Cursor)
  | 0, c => .error (c.fault (.other "too long"))
  | fuel + 1, c => do
    let (t, d) ← token fuel c
    if t.isSign "|" then
      let (_, d) ← belowLines fuel d
      let (next, d) ← command fuel d
      let (rest, d) ← pipes fuel d
      return (next :: rest, d)
    else return ([], c)

/-- A pipeline. -/
def pipeline : Nat → Cursor → Reading (Command × Cursor)
  | 0, c => .error (c.fault (.other "too long"))
  | fuel + 1, c => do
    let (t, d) ← token fuel c
    let negated := t.keyword? = some "!"
    let (first, d) ← command fuel (if negated then d else c)
    let (rest, d) ← pipes fuel d
    let whole := if rest.isEmpty then first else .pipeline (first :: rest)
    return (if negated then .negation whole else whole, d)

/-- The rest of a list of pipelines each of which runs on a condition. -/
def conditionals : Nat → Command → Cursor → Reading (Command × Cursor)
  | 0, _, c => .error (c.fault (.other "too long"))
  | fuel + 1, first, c => do
    let (t, d) ← token fuel c
    if t.isSign "&&" || t.isSign "||" then
      let (_, d) ← belowLines fuel d
      let (second, d) ← pipeline fuel d
      conditionals fuel (if t.isSign "&&" then .andThen first second else .orElse first second) d
    else return (first, c)

/-- Pipelines each of which runs on a condition. -/
def andOr : Nat → Cursor → Reading (Command × Cursor)
  | 0, c => .error (c.fault (.other "too long"))
  | fuel + 1, c => do
    let (first, c) ← pipeline fuel c
    conditionals fuel first c

/-- Commands one after another, up to what ends them.  There may have to be one. -/
def commands (mayBeEmpty : Bool) : Nat → Cursor → Reading (List Command × Cursor)
  | 0, c => .error (c.fault (.other "too long"))
  | fuel + 1, c => do
    let (_, c) ← belowLines fuel c
    let (t, _) ← token fuel c
    if (mayBeEmpty && t.isCloser) || t.isFinish then return ([], c)
    let (first, c) ← andOr fuel c
    let (t, d) ← token fuel c
    if t.isSign "&" then
      let (rest, d) ← commands true fuel d
      return (.background first :: rest, d)
    match t with
    | .newline =>
      let (rest, d) ← commands true fuel d
      return (first :: rest, d)
    | _ =>
      if t.isSign ";" then
        let (rest, d) ← commands true fuel d
        return (first :: rest, d)
      else return ([first], c)

/-- The commands of a line. -/
def lineOf : Nat → Cursor → Reading (List Command × Cursor)
  | 0, c => .error (c.fault (.other "too long"))
  | fuel + 1, c => do
    match ← token fuel c with
    | (.newline, d) => return ([], d)
    | (.finish, d) => return ([], d)
    | _ =>
      let (first, c) ← andOr fuel c
      let (t, d) ← token fuel c
      if t.isSign "&" then
        let (rest, d) ← lineOf fuel d
        return (.background first :: rest, d)
      match t with
      | .newline | .finish => return ([first], d)
      | _ =>
        if t.isSign ";" then
          let (rest, d) ← lineOf fuel d
          return (first :: rest, d)
        else throw (misplaced t d)

end

/-- As much fuel as reading a text can take. -/
def fuelFor (cs : List Char) : Nat := 16 * cs.length + 64

/-- The lines from a cursor on. -/
def allLines : Nat → Cursor → Script
  | 0, _ => { commands := [] }
  | n + 1, c =>
    if c.rest.isEmpty then { commands := [] }
    else
      match lineOf (fuelFor c.rest) c with
      | .error f => { commands := [], fault? := some f }
      | .ok (cs, d) =>
        let rest := allLines n d
        { rest with commands := cs ++ rest.commands }

end Reader

/-- The script that a text writes. -/
def ofText (cs : List Char) : Script := Reader.allLines (cs.length + 1) { rest := cs }

end CwlCompliance.Script
