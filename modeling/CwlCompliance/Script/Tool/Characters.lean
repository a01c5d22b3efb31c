import CwlCompliance.Digest.Sha256
import CwlCompliance.Script.Regular
import CwlCompliance.Script.Tool.Printing

/-!
# Characters, names and numbers

The tools that exchange characters, take paths apart, count and calculate.

## Main definitions

* `Tool.tr` — characters exchanged, dropped and squeezed.
* `Tool.basename`, `Tool.dirname` — the parts of a path.
* `Tool.seq`, `Tool.expr` — numbers in order, and calculations.
* `Tool.base64`, `Tool.sha256sum` — other writings of files.
-/

namespace CwlCompliance.Script

/-! ### Sets of characters -/

/-- The characters in order that a set of `tr` names; `n` bounds its length. -/
def setOf : Nat → List Char → List Char
  | 0, _ => []
  | _, [] => []
  | n + 1, cs =>
    let named :=
      match cs with
      | '[' :: ':' :: rest =>
        let name := rest.takeWhile Char.isLower
        if (rest.drop name.length).take 2 = [':', ']'] then
          (namedRanges? (String.ofList name)).map fun ranges => (ranges, rest.drop (name.length + 2))
        else none
      | _ => none
    let charsBetween := fun (a b : Char) => (List.range (b.toNat + 1 - a.toNat)).map fun k => octet (a.toNat + k)
    match named with
    | some (ranges, rest) => ranges.flatMap (fun (a, b) => charsBetween a b) ++ setOf n rest
    | none =>
      let (c, rest) :=
        match cs with
        | '\\' :: more =>
          match escapeAt? more with
          | some (c, width) => (c, more.drop width)
          | none => (more.head?.getD '\\', more.drop 1)
        | c :: rest => (c, rest)
        | [] => ('\x00', [])
      match rest with
      | '-' :: '\\' :: more =>
        match escapeAt? more with
        | some (d, width) => charsBetween c d ++ setOf n (more.drop width)
        | none => charsBetween c (more.head?.getD '\\') ++ setOf n (more.drop 1)
      | '-' :: d :: more => charsBetween c d ++ setOf n more
      | _ => c :: setOf n rest

/-- A text in which each run of a character of a set is squeezed to one. -/
def squeezed (set : List Char) : List Char → List Char
  | a :: b :: rest =>
    if a = b ∧ set.contains a then squeezed set (b :: rest) else a :: squeezed set (b :: rest)
  | cs => cs

namespace Tool

/-- Exchanges, drops or squeezes characters. -/
def tr : Tool := fun c =>
  let table : OptionTable :=
    { plain := ['d', 's', 'c', 'C', 't']
      long := [("delete", 'd'), ("squeeze-repeats", 's'), ("complement", 'c')], anywhere := false }
  let o := table.read c.arguments
  let set := fun (s : String) => setOf s.length s.toList
  let first := fun (s : String) =>
    if o.has 'c' || o.has 'C' then
      let given := set s
      ((List.range 256).map octet).filter fun d => !given.contains d
    else set s
  let passed := fun (out : List Char) => { stdout := out, left? := some [] }
  let help := "\nTry 'tr --help' for more information."
  match o.unknown?, o.operands with
  | some u, _ => unknownOption "tr" u 1
  | none, [] => .failure ("tr: missing operand" ++ help) 1
  | none, [a] =>
    if o.has 'd' then
      let dropped := first a
      passed (c.input.filter fun d => !dropped.contains d)
    else if o.has 's' then passed (squeezed (first a) c.input)
    else .failure ("tr: missing operand after '" ++ a ++
      "'\nTwo strings must be given when translating." ++ help) 1
  | none, [a, b] =>
    if o.has 'd' then
      if o.has 's' then
        let dropped := first a
        passed (squeezed (set b) (c.input.filter fun d => !dropped.contains d))
      else .failure ("tr: extra operand '" ++ b ++
        "'\nOnly one string may be given when deleting without squeezing repeats." ++ help) 1
    else
      let into := set b
      let pairs := ((first a).zipIdx.map fun (d, n) => (d, (into[n]?).or into.getLast?)).reverse
      let out := c.input.map fun d => ((pairs.lookup d).join).getD d
      passed (if o.has 's' then squeezed into out else out)
  | none, _ :: _ :: extra :: _ => .failure ("tr: extra operand '" ++ extra ++ "'" ++ help) 1

/-! ### Paths -/

/-- The last part of a path. -/
def lastPart (path : String) : String :=
  let trimmed := path.toList.reverse.dropWhile (· = '/')
  if trimmed.isEmpty then (if path.isEmpty then "" else "/")
  else String.ofList (trimmed.takeWhile (· ≠ '/')).reverse

/-- The path of the directory that the last part of a path is in. -/
def directoryPart (path : String) : String :=
  let trimmed := path.toList.reverse.dropWhile (· = '/')
  if trimmed.isEmpty then (if path.isEmpty then "." else "/")
  else
    let before := trimmed.dropWhile (· ≠ '/')
    if before.isEmpty then "."
    else
      let shown := before.dropWhile (· = '/')
      if shown.isEmpty then "/" else String.ofList shown.reverse

/-- A name without an ending, unless it is that ending. -/
def withoutEnding (ending name : String) : String :=
  if name.endsWith ending && name ≠ ending then (name.dropEnd ending.length).toString else name

/-- Prints the last part of a path, or with `-a` of each. -/
def basename : Tool := fun c =>
  let table : OptionTable :=
    { plain := ['a', 'z'], valued := ['s'], long := [("multiple", 'a'), ("suffix", 's')], anywhere := false }
  let o := table.read c.arguments
  let help := "\nTry 'basename --help' for more information."
  match o.unknown?, o.operands with
  | some u, _ => unknownOption "basename" u 1
  | none, [] => .failure ("basename: missing operand" ++ help) 1
  | none, names =>
    if o.has 'a' || o.has 's' then
      .printed (String.join (names.map fun n =>
        (match o.value? 's' with | some e => withoutEnding e (lastPart n) | none => lastPart n) ++ "\n"))
    else
      match names with
      | [n] => .printed (lastPart n ++ "\n")
      | [n, e] => .printed (withoutEnding e (lastPart n) ++ "\n")
      | _ :: _ :: extra :: _ => .failure ("basename: extra operand '" ++ extra ++ "'" ++ help) 1
      | [] => {}

/-- Prints the paths of the directories that paths are in. -/
def dirname : Tool := fun c =>
  match (({ plain := ['z'] } : OptionTable).read c.arguments).operands with
  | [] => .failure "dirname: missing operand\nTry 'dirname --help' for more information." 1
  | names => .printed (String.join (names.map fun n => directoryPart n ++ "\n"))

/-! ### Numbers -/

/-- Prints numbers in order. -/
def seq : Tool := fun c =>
  let isNumber := fun (s : String) => s.toInt?.isSome
  let rec split : List String → List (Char × String) × List String
    | "-w" :: rest => let (o, r) := split rest; (('w', "") :: o, r)
    | "-s" :: v :: rest => let (o, r) := split rest; (('s', v) :: o, r)
    | rest => ([], rest)
  let (options, operands) := split c.arguments
  let separator := (options.lookup 's').getD "\n"
  let count := fun (a step b : Int) =>
    if step = 0 then [] else
      let n := if 0 < step then Int.fdiv (b - a) step else Int.fdiv (a - b) (-step)
      (List.range (n + 1).toNat).map fun (k : Nat) => a + step * (k : Int)
  let shown := fun (ns : List Int) =>
    let texts := ns.map toString
    let width := (texts.map String.length).foldl max 0
    let padded := fun (t : String) =>
      if (options.lookup 'w').isNone then t
      else if t.startsWith "-" then "-" ++ String.ofList (List.replicate (width - t.length) '0') ++ (t.drop 1).toString
      else String.ofList (List.replicate (width - t.length) '0') ++ t
    if ns.isEmpty then {} else Streams.printed (separator.intercalate (texts.map padded) ++ "\n")
  match operands.find? fun s => !isNumber s with
  | some s =>
    .failure ("seq: invalid floating point argument: '" ++ s ++ "'\nTry 'seq --help' for more information.") 1
  | none =>
    match operands.filterMap String.toInt? with
    | [b] => shown (count 1 1 b)
    | [a, b] => shown (count a 1 b)
    | [a, step, b] => shown (count a step b)
    | _ => .failure "seq: missing operand\nTry 'seq --help' for more information." 1

end Tool

/-! ### Calculations -/

namespace Calculation

/-- The signs between operands, those that bind least first. -/
def levels : List (List String) := [
  ["|"], ["&"], ["<", "<=", "=", "==", "!=", ">=", ">"], ["+", "-"], ["*", "/", "%"], [":"]]

/-- Whether a value counts as false. -/
def isNull (s : String) : Bool := s.isEmpty || s.toInt? = some 0

/-- What a text that is matched against a pattern gives: what the first group has matched, or the
number of characters matched. -/
def matched (s pattern : String) : Except String String := do
  let r ← Regular.ofText false pattern.toList
  let hasGroup := (pattern.splitOn "\\(").length > 1
  match r.longest? false { rest := s.toList } with
  | some q =>
    if hasGroup then return String.ofList ((q.groups.lookup 1).getD [])
    else return toString (s.length - q.rest.length)
  | none => return if hasGroup then "" else "0"

/-- What a sign makes of two values. -/
def combined (sign a b : String) : Except String String := do
  let number := fun (s : String) =>
    match s.toInt? with | some n => Except.ok n | none => .error "non-integer argument"
  let ordered :=
    match a.toInt?, b.toInt? with
    | some x, some y => compare x y
    | _, _ => compare a b
  let truth := fun (b : Bool) => Except.ok (if b then "1" else "0")
  match sign with
  | "|" => return if !isNull a then a else if !b.isEmpty then b else "0"
  | "&" => return if isNull a || isNull b then "0" else a
  | "<" => truth (ordered == .lt)
  | "<=" => truth (ordered != .gt)
  | "=" | "==" => truth (ordered == .eq)
  | "!=" => truth (ordered != .eq)
  | ">=" => truth (ordered != .lt)
  | ">" => truth (ordered == .gt)
  | "+" => return toString ((← number a) + (← number b))
  | "-" => return toString ((← number a) - (← number b))
  | "*" => return toString ((← number a) * (← number b))
  | "/" =>
    if (← number b) = 0 then throw "division by zero"
    return toString (Int.tdiv (← number a) (← number b))
  | "%" =>
    if (← number b) = 0 then throw "division by zero"
    return toString (Int.tmod (← number a) (← number b))
  | _ => matched a b

/-- A value and the arguments after it, or what is wrong. -/
abbrev Reading := Except String (String × List String)

/-- What is wrong where an argument is missing, after another if there is one. -/
def missing (after : Option String) : String :=
  match after with
  | some s => "syntax error: missing argument after '" ++ s ++ "'"
  | none => "missing operand"

mutual

/-- The value of an operand. -/
def operand : Nat → Option String → List String → Reading
  | 0, _, _ => .error "too many arguments"
  | fuel + 1, after, args => do
    match args with
    | [] => throw (missing after)
    | "(" :: rest =>
      let (a, rest) ← atLevel levels fuel (some "(") rest
      match rest with
      | ")" :: rest => return (a, rest)
      | b :: _ => throw ("syntax error: expecting ')' instead of '" ++ b ++ "'")
      | [] => throw ("syntax error: expecting ')' after '" ++ a ++ "'")
    | "length" :: s :: rest => return (toString s.length, rest)
    | "+" :: s :: rest => return (s, rest)
    | "match" :: s :: p :: rest => return (← matched s p, rest)
    | "index" :: s :: set :: rest =>
      let n := (s.toList.takeWhile fun c => !set.toList.contains c).length
      return (if n = s.length then "0" else toString (n + 1), rest)
    | "substr" :: s :: start :: size :: rest =>
      match start.toNat?, size.toNat? with
      | some k, some n =>
        return (if k = 0 then "" else String.ofList ((s.toList.drop (k - 1)).take n), rest)
      | _, _ => return ("", rest)
    | s :: rest => return (s, rest)

/-- The value of the rest of a calculation at a level, after an operand. -/
def further (level : List String) (above : List (List String)) : Nat → String → List String → Reading
  | 0, _, _ => .error "too many arguments"
  | fuel + 1, a, args => do
    match args with
    | sign :: rest =>
      if level.contains sign then
        let (b, rest) ← atLevel above fuel (some sign) rest
        further level above fuel (← combined sign a b) rest
      else return (a, args)
    | [] => return (a, [])

/-- The value of a calculation with signs of these levels. -/
def atLevel (these : List (List String)) : Nat → Option String → List String → Reading
  | 0, _, _ => .error "too many arguments"
  | fuel + 1, after, args =>
    match these with
    | [] => operand fuel after args
    | level :: above => do
      let (a, rest) ← atLevel above fuel after args
      further level above fuel a rest

end

end Calculation

namespace Tool

/-- Prints what its arguments come to. -/
def expr : Tool := fun c =>
  let args := match c.arguments with | "--" :: rest => rest | args => args
  match Calculation.atLevel Calculation.levels (16 * args.length + 32) none args with
  | .ok (a, []) => { stdout := (a ++ "\n").toList, code := if Calculation.isNull a then 1 else 0 }
  | .ok (_, b :: _) => .failure ("expr: syntax error: unexpected argument '" ++ b ++ "'") 2
  | .error message =>
    .failure ("expr: " ++ message ++
      (if args.isEmpty then "\nTry 'expr --help' for more information." else "")) 2

/-! ### Other writings -/

/-- The letters for groups of six bits. -/
def base64Digits : List Char :=
  "ABCDEFGHIJKLMNOPQRSTUVWXYZabcdefghijklmnopqrstuvwxyz0123456789+/".toList

/-- The digit for a group of six bits. -/
def base64Digit (n : Nat) : Char := (base64Digits[n % 64]?).getD '='

/-- Characters in groups of six bits. -/
def base64Chars : List Char → List Char
  | a :: b :: c :: rest =>
    let n := a.toNat * 65536 + b.toNat * 256 + c.toNat
    base64Digit (n / 262144) :: base64Digit (n / 4096) :: base64Digit (n / 64) :: base64Digit n ::
      base64Chars rest
  | [a, b] =>
    let n := a.toNat * 65536 + b.toNat * 256
    [base64Digit (n / 262144), base64Digit (n / 4096), base64Digit (n / 64), '=']
  | [a] =>
    let n := a.toNat * 65536
    [base64Digit (n / 262144), base64Digit (n / 4096), '=', '=']
  | [] => []

/-- A text in lines of a width; `n` bounds their number. -/
def inLines (width : Nat) : Nat → List Char → List Char
  | 0, _ => []
  | n + 1, cs => if cs.isEmpty then [] else cs.take width ++ '\n' :: inLines width n (cs.drop width)

/-- Prints files in groups of six bits. -/
def base64 : Tool := fun c =>
  let o := ({ valued := ['w'], long := [("wrap", 'w')] } : OptionTable).read c.arguments
  match o.unknown? with
  | some u => unknownOption "base64" u 1
  | none =>
    let found := c.contents o.operands (complaint "base64") 1
    let cs := base64Chars found.stdout
    let width := ((o.value? 'w').bind String.toNat?).getD 76
    { found with stdout := if width = 0 then cs else inLines width cs.length cs }

/-- Prints the digests of files. -/
def sha256sum : Tool := fun c =>
  let o := ({ plain := ['b', 't'] } : OptionTable).read c.arguments
  let row := fun (source : Option String × Except FileError (List Char)) =>
    match source.2 with
    | .ok cs => Streams.printed (Sha256.hex (Octets.toBytes cs) ++ "  " ++ source.1.getD "-" ++ "\n")
    | .error e => .failure (complaint "sha256sum" (source.1.getD "-") e) 1
  ((c.sources o.operands).map row).foldl .andThen { left? := Call.left? o.operands }

/-- Does nothing and succeeds. -/
def succeed : Tool := fun _ => {}

/-- Does nothing and fails. -/
def fail : Tool := fun _ => { code := 1 }

end Tool

end CwlCompliance.Script
