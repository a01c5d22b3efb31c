import CwlCompliance.Script.Tool.Basic

/-!
# Lines

The tools that pass on, choose, count and order the lines of files.

## Main definitions

* `Tool.cat`, `Tool.head`, `Tool.tail` — files, their first and their last lines.
* `Tool.wc`, `Tool.nl` — lines counted and numbered.
* `Tool.sort`, `Tool.uniq`, `Tool.tac`, `Tool.rev` — lines in another order.
* `Tool.cut`, `Tool.paste`, `Tool.fold` — lines taken apart and put together.
* `Tool.tee` — input passed on and written to files.
-/

namespace CwlCompliance.Script

/-- A number right-aligned in a width. -/
def aligned (width : Nat) (n : Nat) : List Char :=
  let ds := Nat.toDigits 10 n
  List.replicate (width - ds.length) ' ' ++ ds

namespace Tool

/-! ### Whole files -/

/-- The lines with their ends, numbered. -/
def numberedLines (start : Nat) (cs : List Char) : List Char :=
  ((rawLines cs).zipIdx start).flatMap fun (l, n) => aligned 6 n ++ '\t' :: l

/-- The lines with their ends, of which those that are not empty are numbered. -/
def numberedText (cs : List Char) : List Char :=
  ((rawLines cs).foldl
    (fun (acc : List (List Char) × Nat) l =>
      if l = ['\n'] then (l :: acc.1, acc.2) else ((aligned 6 acc.2 ++ '\t' :: l) :: acc.1, acc.2 + 1))
    ([], 1)).1.reverse.flatten

/-- The lines with their ends, of empty ones that stand together only the first. -/
def withoutRepeatedBlanks : List (List Char) → List (List Char)
  | a :: b :: rest =>
    if a = ['\n'] ∧ b = ['\n'] then withoutRepeatedBlanks (b :: rest)
    else a :: withoutRepeatedBlanks (b :: rest)
  | ls => ls

/-- An octet below 128 as it is shown: control characters after a caret. -/
def shownBelow (n : Nat) : List Char :=
  if n < 32 then ['^', Char.ofNat (n + 64)] else if n = 127 then ['^', '?'] else [Char.ofNat n]

/-- An octet as it is shown: those from 128 on are marked. -/
def shownOctet (c : Char) : List Char :=
  if c.toNat < 128 then shownBelow c.toNat else ['M', '-'] ++ shownBelow (c.toNat - 128)

/-- Prints files. -/
def cat : Tool := fun c =>
  let table : OptionTable :=
    { plain := ['A', 'b', 'e', 'E', 'n', 's', 't', 'T', 'u', 'v']
      long := [("show-all", 'A'), ("number-nonblank", 'b'), ("show-ends", 'E'), ("number", 'n'),
        ("squeeze-blank", 's'), ("show-tabs", 'T'), ("show-nonprinting", 'v')] }
  let o := table.read c.arguments
  let hasAny := fun (letters : List Char) => letters.any o.has
  match o.unknown? with
  | some u => unknownOption "cat" u 1
  | none =>
    let found := c.contents o.operands (complaint "cat") 1
    let shown := fun d =>
      if d = '\n' then (if hasAny ['A', 'e', 'E'] then ['$', '\n'] else ['\n'])
      else if d = '\t' then (if hasAny ['A', 't', 'T'] then ['^', 'I'] else ['\t'])
      else if hasAny ['A', 'e', 't', 'v'] then shownOctet d
      else [d]
    let kept := if o.has 's' then (withoutRepeatedBlanks (rawLines found.stdout)).flatten else found.stdout
    let numbered := if o.has 'b' then numberedText kept
      else if o.has 'n' then numberedLines 1 kept
      else kept
    let gap := fun (l : List Char) => if hasAny ['b', 'n'] then l.splitAt 7 else ([], l)
    let marked := fun (l : List Char) =>
      if o.has 'b' && l = ['\n'] then l.flatMap shown
      else
        let (number, rest) := gap l
        number ++ rest.flatMap shown
    { found with stdout := (rawLines numbered).flatMap marked }

/-- Prints its input and writes it to files. -/
def tee : Tool := fun c =>
  let o := ({ plain := ['a', 'i'], long := [("append", 'a')] } : OptionTable).read c.arguments
  match o.unknown? with
  | some u => unknownOption "tee" u 1
  | none =>
    o.operands.foldl
      (fun acc path =>
        match (acc.files?.getD c.files).write (pathOf path) (o.has 'a') (Octets.toBytes c.input) with
        | .ok files => { acc with files? := some files }
        | .error e => acc.andThen (.failure (complaint "tee" path e) 1))
      { stdout := c.input, left? := some [] }

/-! ### Starts and ends -/

/-- Arguments in which a number alone is the value of an option. -/
def withNumbers (letter : Char) (args : List String) : List String :=
  match args with
  | a :: rest =>
    if a.length > 1 ∧ a.startsWith "-" ∧ (a.toList.drop 1).all Char.isDigit then
      ("-" ++ String.singleton letter ++ (a.drop 1).toString) :: rest
    else args
  | [] => []

/-- A count: its sign, if it has one, and the number. -/
def count? (s : String) : Option (Option Char × Nat) :=
  match s.toList with
  | '-' :: ds => (String.ofList ds).toNat?.map fun n => (some '-', n)
  | '+' :: ds => (String.ofList ds).toNat?.map fun n => (some '+', n)
  | ds => (String.ofList ds).toNat?.map fun n => (none, n)

/-- The first items; with a minus sign all but the last ones. -/
def firsts {α : Type} (sign : Option Char) (n : Nat) (items : List α) : List α :=
  if sign = some '-' then items.take (items.length - n) else items.take n

/-- The last items; with a plus sign those from a number on. -/
def lasts {α : Type} (sign : Option Char) (n : Nat) (items : List α) : List α :=
  if sign = some '+' then items.drop (n - 1) else items.drop (items.length - n)

/-- Prints a part of each file, under its name if there are several. -/
def parted (tool : String) (part : List Char → List Char) (quiet verbose : Bool) (names : List String)
    (c : Call) : Streams :=
  let titled := (decide (1 < names.length) || verbose) && !quiet
  let step := fun (acc : Streams × Bool) (source : Option String × Except FileError (List Char)) =>
    let name := source.1.getD "-"
    let shown := if name = "-" then "standard input" else name
    match source.2 with
    | .ok cs =>
      let title := (if acc.2 then "\n" else "") ++ "==> " ++ shown ++ " <==\n"
      (acc.1.andThen { stdout := (if titled then title.toList else []) ++ part cs }, true)
    | .error e => (acc.1.andThen (.failure (cannotOpen tool name e) 1), acc.2)
  ((c.sources names).foldl step ({ left? := Call.left? names }, false)).1

/-- Prints the first or the last lines or characters of files. -/
def ending (tool : String)
    (chosen : {α : Type} → Option Char → Nat → List α → List α) : Tool := fun c =>
  let table : OptionTable :=
    { plain := ['q', 'v', 'f'], valued := ['n', 'c']
      long := [("lines", 'n'), ("bytes", 'c'), ("quiet", 'q'), ("silent", 'q'), ("verbose", 'v')] }
  let o := table.read (withNumbers 'n' c.arguments)
  match o.unknown?, (o.given.reverse.find? fun g => g.1 = 'n' || g.1 = 'c') with
  | some u, _ => unknownOption tool u 1
  | none, none =>
    parted tool (fun cs => (chosen none 10 (rawLines cs)).flatten) (o.has 'q') (o.has 'v') o.operands c
  | none, some (letter, value) =>
    match count? value with
    | none =>
      let what := if letter = 'n' then "lines" else "bytes"
      .failure (tool ++ ": invalid number of " ++ what ++ ": '" ++ value ++ "'") 1
    | some (sign, n) =>
      let part := fun cs =>
        if letter = 'n' then (chosen sign n (rawLines cs)).flatten else chosen sign n cs
      parted tool part (o.has 'q') (o.has 'v') o.operands c

/-- Prints the first lines of files. -/
def head : Tool := ending "head" firsts

/-- Prints the last lines of files. -/
def tail : Tool := ending "tail" lasts

/-! ### Counts and numbers -/

/-- Whether a character is a blank. -/
def isSpace (c : Char) : Bool := c = ' ' || ('\t' ≤ c && c ≤ '\r')

/-- The counts of a text that are asked for. -/
def countsOf (o : Options) (cs : List Char) : List Nat :=
  let all := !(o.has 'l' || o.has 'w' || o.has 'c' || o.has 'm' || o.has 'L')
  (if all || o.has 'l' then [cs.count '\n'] else []) ++
    (if all || o.has 'w' then [(wordsBetween isSpace cs).length] else []) ++
    (if o.has 'm' then [cs.length] else []) ++
    (if all || o.has 'c' then [cs.length] else []) ++
    (if o.has 'L' then [((linesOf cs).map List.length).foldl max 0] else [])

/-- Counts lines, words and characters. -/
def wc : Tool := fun c =>
  let table : OptionTable :=
    { plain := ['l', 'w', 'c', 'm', 'L']
      long := [("lines", 'l'), ("words", 'w'), ("bytes", 'c'), ("chars", 'm'), ("max-line-length", 'L')] }
  let o := table.read c.arguments
  match o.unknown? with
  | some u => unknownOption "wc" u 1
  | none =>
    let sources := c.sources o.operands
    let sizes := sources.map fun s => match s.2 with | .ok cs => cs.length | .error _ => 0
    let columns := (countsOf o []).length
    let isStream := fun (name? : Option String) => (name?.getD "-") = "-" && !c.isFile
    let width :=
      if columns = 1 ∧ sources.length ≤ 1 then 1
      else
        let digits := (Nat.toDigits 10 (sizes.foldl (· + ·) 0)).length
        if sources.any fun s => isStream s.1 then max 7 digits else digits
    let row := fun (counts : List Nat) (name? : Option String) =>
      [' '].intercalate (counts.map (aligned width)) ++
        (match name? with | some n => ' ' :: n.toList | none => []) ++ ['\n']
    let rows := sources.map fun s =>
      match s.2 with
      | .ok cs => { stdout := row (countsOf o cs) s.1 }
      | .error .isDirectory =>
        { stdout := row ((countsOf o []).map fun _ => 0) s.1
          stderr := (complaint "wc" (s.1.getD "-") .isDirectory ++ "\n").toList, code := 1 }
      | .error e => Streams.failure (complaint "wc" (s.1.getD "-") e) 1
    let totals := (sources.map fun s => match s.2 with | .ok cs => countsOf o cs | .error _ => []).foldl
      (fun acc counts => if counts.isEmpty then acc else acc.zipWith (· + ·) counts)
      ((countsOf o []).map fun _ => 0)
    let last : Streams := if 1 < sources.length then { stdout := row totals (some "total") } else {}
    (rows ++ [last]).foldl .andThen { left? := Call.left? o.operands }

/-- Numbers lines, all of them or those that are not empty. -/
def nl : Tool := fun c =>
  let o := ({ valued := ['b', 'w', 's', 'v'] } : OptionTable).read c.arguments
  match o.unknown? with
  | some u => unknownOption "nl" u 1
  | none =>
    let found := c.contents o.operands (complaint "nl") 1
    let width := ((o.value? 'w').bind String.toNat?).getD 6
    let gap := (o.value? 's').getD "\t"
    let start := ((o.value? 'v').bind String.toNat?).getD 1
    let all := o.value? 'b' = some "a"
    let (out, _) := (linesOf found.stdout).foldl
      (fun (out, n) l =>
        if all || !l.isEmpty then (out ++ aligned width n ++ gap.toList ++ l ++ ['\n'], n + 1)
        else (out ++ List.replicate (width + gap.length) ' ' ++ ['\n'], n))
      ([], start)
    { found with stdout := out }

/-! ### Order -/

/-- Prints lines from the last to the first. -/
def tac : Tool := fun c =>
  let found := c.contents (({} : OptionTable).read c.arguments).operands (cannotOpen "tac") 1
  { found with stdout := (rawLines found.stdout).reverse.flatten }

/-- Prints lines backwards. -/
def rev : Tool := fun c =>
  let found := c.contents (({} : OptionTable).read c.arguments).operands (fun n e =>
    "rev: cannot open " ++ n ++ ": " ++ e.reason) 1
  { found with
    stdout := (rawLines found.stdout).flatMap fun l =>
      if l.getLast? = some '\n' then l.dropLast.reverse ++ ['\n'] else l.reverse }

/-- The number at the start of a text: its sign, and its digits before and after the point. -/
def leadingNumber (cs : List Char) : Int × List Char :=
  let cs := cs.dropWhile isSpace
  let negative := cs.head? = some '-'
  let digits := if negative then cs.drop 1 else cs
  let whole := digits.takeWhile Char.isDigit
  let rest := digits.drop whole.length
  let fraction := match rest with | '.' :: more => more.takeWhile Char.isDigit | _ => []
  let scaled := ((String.ofList (whole ++ (fraction ++ List.replicate 9 '0').take 9)).toNat?).getD 0
  (if negative then -(scaled : Int) else scaled, rest)

/-- Whether one text comes before another or is the same. -/
def charsLe : List Char → List Char → Bool
  | [], _ => true
  | _ :: _, [] => false
  | a :: as, b :: bs => if a = b then charsLe as bs else a < b

/-- The fields of a line, at a separator, or each with the blanks before it. -/
def sortFields (separator? : Option Char) (l : List Char) : List (List Char) :=
  match separator? with
  | some s => l.splitOn s
  | none =>
    (l.foldl
      (fun (fields : List (List Char)) c =>
        match fields with
        | [] => [[c]]
        | f :: rest =>
          if isSpace c && !(f.getLast?.any isSpace) then [c] :: f :: rest else (f ++ [c]) :: rest)
      []).reverse

/-- The key of a line: from one field to another. -/
def sortKey (separator? : Option Char) (key : String) (l : List Char) : List Char :=
  match key.splitOn "," with
  | first :: more =>
    let number := fun (s : String) => (String.ofList (s.toList.takeWhile Char.isDigit)).toNat?.getD 0
    let fields := (sortFields separator? l).drop (number first - 1)
    let fields := match more with
      | last :: _ => fields.take (number last + 1 - number first)
      | [] => fields
    [separator?.getD ' '].intercalate fields
  | [] => l

/-- The first line that is not in its place after the one before it, with its number. -/
def disorder? (isInPlace : List Char → List Char → Bool) : Nat → List (List Char) →
    Option (Nat × List Char)
  | n, a :: b :: rest => if isInPlace a b then disorder? isInPlace (n + 1) (b :: rest) else some (n, b)
  | _, _ => none

/-- Sorts lines. -/
def sort : Tool := fun c =>
  let table : OptionTable :=
    { plain := ['r', 'n', 'u', 'f', 'b', 's', 'c'], valued := ['k', 't']
      long := [("reverse", 'r'), ("numeric-sort", 'n'), ("unique", 'u'), ("ignore-case", 'f'),
        ("key", 'k'), ("field-separator", 't'), ("stable", 's'), ("check", 'c')] }
  let o := table.read c.arguments
  match o.unknown? with
  | some u => unknownOption "sort" u 2
  | none =>
    let found := c.contents o.operands (fun n e =>
      match e with
      | .isDirectory => "sort: read failed: " ++ n ++ ": " ++ e.reason
      | _ => "sort: cannot read: " ++ n ++ ": " ++ e.reason) 2
    if found.code ≠ 0 then { found with stdout := [] }
    else
      let keys := o.values 'k'
      let letters := fun (c : Char) => o.has c || keys.any fun k => k.toList.contains c
      let separator? := (o.value? 't').bind fun s => s.toList.head?
      let keyOf := fun l =>
        let key := match keys with | k :: _ => sortKey separator? k l | [] => l
        let key := if o.has 'b' then key.dropWhile isSpace else key
        if letters 'f' then key.map Char.toUpper else key
      let le := fun a b =>
        if letters 'n' then decide ((leadingNumber (keyOf a)).1 ≤ (leadingNumber (keyOf b)).1)
        else charsLe (keyOf a) (keyOf b)
      let lines := linesOf found.stdout
      let same := fun a b => le a b && le b a
      let before := fun a b => if letters 'r' then le b a else le a b
      let last := fun a b => if o.has 's' || o.has 'u' then true
        else if o.has 'r' then charsLe b a else charsLe a b
      let isBefore := fun a b => if same a b then last a b else before a b
      let sorted := lines.mergeSort isBefore
      let kept := if o.has 'u' then
          sorted.foldr (fun l acc => match acc with
            | m :: rest => if same l m then l :: rest else l :: m :: rest
            | [] => [l]) []
        else sorted
      let isInPlace := fun a b => if o.has 'u' && same a b then false else isBefore a b
      if o.has 'c' then
        match disorder? isInPlace 2 lines with
        | some (n, l) =>
          { found with
            stdout := []
            stderr := ("sort: " ++ o.operands.head?.getD "-" ++ ":" ++ toString n ++ ": disorder: ").toList
              ++ l ++ ['\n']
            code := 1 }
        | none => { found with stdout := [] }
      else { found with stdout := ofLines kept }

/-- Lines that are the same and stand together, with their number. -/
def runsOf (same : List Char → List Char → Bool) : List (List Char) → List (List Char × Nat)
  | [] => []
  | l :: rest =>
    match runsOf same rest with
    | (m, n) :: more => if same l m then (l, n + 1) :: more else (l, 1) :: (m, n) :: more
    | [] => [(l, 1)]

/-- Prints lines once that stand together and are the same. -/
def uniq : Tool := fun c =>
  let table : OptionTable :=
    { plain := ['c', 'd', 'u', 'i']
      long := [("count", 'c'), ("repeated", 'd'), ("unique", 'u'), ("ignore-case", 'i')] }
  let o := table.read c.arguments
  match o.unknown? with
  | some u => unknownOption "uniq" u 1
  | none =>
    let found := c.contents (o.operands.take 1) (complaint "uniq") 1
    let same := fun (a b : List Char) =>
      if o.has 'i' then a.map Char.toLower == b.map Char.toLower else a == b
    let runs := (runsOf same (linesOf found.stdout)).filter fun r =>
      (!o.has 'd' || decide (1 < r.2)) && (!o.has 'u' || r.2 = 1)
    { found with
      stdout := runs.flatMap fun (l, n) =>
        (if o.has 'c' then aligned 7 n ++ [' '] else []) ++ l ++ ['\n'] }

/-! ### Parts of lines -/

/-- Positions from one to another, or to the end. -/
def positions? (s : String) : Option (List (Nat × Option Nat)) :=
  (s.splitOn ",").mapM fun item =>
    match item.splitOn "-" with
    | [n] => n.toNat?.map fun n => (n, some n)
    | [a, b] =>
      if a.isEmpty && b.isEmpty then none
      else if a.isEmpty then b.toNat?.map fun b => (1, some b)
      else if b.isEmpty then a.toNat?.map fun a => (a, none)
      else do return (← a.toNat?, some (← b.toNat?))
    | _ => none

/-- The items at positions. -/
def selected {α : Type} (positions : List (Nat × Option Nat)) (complement : Bool) (items : List α) :
    List α :=
  ((items.zipIdx 1).filter fun (_, n) =>
    (positions.any fun (a, b?) => decide (a ≤ n) && b?.all (decide <| n ≤ ·)) != complement).map (·.1)

/-- What is wrong with positions that can be read: they count from one, and a range does not end before
it starts. -/
def wrongPositions? (areFields : Bool) (positions : List (Nat × Option Nat)) : Option String :=
  if positions.any fun (a, b?) => a = 0 || (b? = some 0) then
    some ((if areFields then "fields" else "byte/character positions") ++ " are numbered from 1")
  else if positions.any fun (a, b?) => b?.any (· < a) then some "invalid decreasing range"
  else none

/-- Prints parts of lines. -/
def cut : Tool := fun c =>
  let table : OptionTable :=
    { plain := ['s', 'n', '*'], valued := ['b', 'c', 'f', 'd', '+']
      long := [("bytes", 'b'), ("characters", 'c'), ("fields", 'f'), ("delimiter", 'd'),
        ("only-delimited", 's'), ("complement", '*'), ("output-delimiter", '+')] }
  let o := table.read c.arguments
  match o.unknown?, (o.given.find? fun g => ['b', 'c', 'f'].contains g.1) with
  | some u, _ => unknownOption "cut" u 1
  | none, none =>
    .failure ("cut: you must specify a list of bytes, characters, or fields\n" ++
      "Try 'cut --help' for more information.") 1
  | none, some (letter, list) =>
    let wrong := fun (what : String) =>
      Streams.failure ("cut: " ++ what ++ "\nTry 'cut --help' for more information.") 1
    let positions := (positions? list).getD []
    match wrongPositions? (letter = 'f') positions with
    | some what => wrong what
    | none =>
      if positions.isEmpty then
        wrong ("invalid " ++ (if letter = 'f' then "field value" else "byte/character position") ++ " '" ++
          list ++ "'")
      else if (o.value? 'd').any fun s => 1 < s.length then wrong "the delimiter must be a single character"
      else if letter ≠ 'f' && o.has 'd' then
        wrong "an input delimiter may be specified only when operating on fields"
      else if letter ≠ 'f' && o.has 's' then
        wrong "suppressing non-delimited lines makes sense\n\tonly when operating on fields"
      else
      let found := c.contents o.operands (complaint "cut") 1
      let delimiter := ((o.value? 'd').bind fun s => s.toList.head?).getD '\t'
      let joint := match o.value? '+' with | some s => s.toList | none => [delimiter]
      let part := fun (l : List Char) =>
        if letter = 'f' then
          if l.contains delimiter then
            some (joint.intercalate (selected positions (o.has '*') (l.splitOn delimiter)))
          else if o.has 's' then none
          else some l
        else some (selected positions (o.has '*') l)
      { found with stdout := ofLines ((linesOf found.stdout).filterMap part) }

/-- Prints the lines of files side by side, or with `-s` those of each file on one line. -/
def paste : Tool := fun c =>
  let o := ({ plain := ['s'], valued := ['d'], long := [("serial", 's'), ("delimiters", 'd')] } :
    OptionTable).read c.arguments
  match o.unknown? with
  | some u => unknownOption "paste" u 1
  | none =>
    let given := ((o.value? 'd').getD "\t").replace "\\n" "\n" |>.replace "\\t" "\t"
    let delimiters := if given.isEmpty then [] else given.toList
    let join := fun (parts : List (List Char)) =>
      match parts with
      | [] => []
      | first :: rest =>
        first ++ (rest.zipIdx.flatMap fun (l, n) => (delimiters[n % delimiters.length]?).toList ++ l)
    let sources := c.sources o.operands
    match (sources.filterMap fun s => match s.2 with | .error e => some (s.1.getD "-", e) | .ok _ => none) with
    | (name, e) :: _ => .failure (complaint "paste" name e) 1
    | [] =>
      let columns := sources.map fun s => match s.2 with | .ok cs => linesOf cs | .error _ => []
      let rows :=
        if o.has 's' then columns.map join
        else
          (List.range ((columns.map List.length).foldl max 0)).map fun n =>
            join (columns.map fun ls => (ls[n]?).getD [])
      { stdout := ofLines rows, left? := Call.left? o.operands }

/-- The length of the first piece of a line at a width; if it can, it ends after a blank. -/
def pieceLength (atBlanks : Bool) (width : Nat) (l : List Char) : Nat :=
  let upToBlank := ((l.take width).reverse.dropWhile fun c => c ≠ ' ' ∧ c ≠ '\t').length
  if atBlanks ∧ upToBlank ≠ 0 then upToBlank else width

/-- A line in pieces of a width; `n` bounds their number. -/
def pieces (atBlanks : Bool) (width : Nat) : Nat → List Char → List (List Char)
  | 0, l => [l]
  | n + 1, l =>
    if l.length ≤ width then [l]
    else
      let size := pieceLength atBlanks width l
      l.take size :: pieces atBlanks width n (l.drop size)

/-- Breaks lines at a width. -/
def fold : Tool := fun c =>
  let o := ({ plain := ['b', 's'], valued := ['w'], long := [("width", 'w')] } : OptionTable).read
    (withNumbers 'w' c.arguments)
  match o.unknown? with
  | some u => unknownOption "fold" u 1
  | none =>
    let found := c.contents o.operands (complaint "fold") 1
    let width := max 1 (((o.value? 'w').bind String.toNat?).getD 80)
    let broken := fun (l : List Char) =>
      ['\n'].intercalate (pieces (o.has 's') width l.length (if l.getLast? = some '\n' then l.dropLast else l)) ++
        (if l.getLast? = some '\n' then ['\n'] else [])
    { found with stdout := (rawLines found.stdout).flatMap broken }

end Tool

end CwlCompliance.Script
