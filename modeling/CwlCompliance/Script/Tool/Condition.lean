import CwlCompliance.Script.Sum
import CwlCompliance.Script.Tool.Basic

/-!
# Conditions

The tool that tests texts, numbers and files, and ends with success if what its arguments say is true.

## Main definitions

* `Condition.Operator` — what stands between or before the things that are tested.
* `Condition.disjunction` — how arguments are read and tested.
* `Tool.test`, `Tool.bracket` — the tool in its two forms.
-/

namespace CwlCompliance.Script

namespace Condition

/-- The operators before one thing. -/
def unaryOperators : List String := [
  "-b", "-c", "-d", "-e", "-f", "-g", "-h", "-k", "-n", "-p", "-r", "-s", "-t", "-u", "-w", "-x", "-z",
  "-G", "-L", "-O", "-S"]

/-- The operators between two things. -/
def binaryOperators : List String := [
  "=", "==", "!=", "<", ">", "-eq", "-ne", "-ge", "-gt", "-le", "-lt", "-nt", "-ot", "-ef"]

/-- Whether an argument is an operator before one thing. -/
def isUnary (s : String) : Bool := unaryOperators.contains s

/-- Whether an argument is an operator between two things. -/
def isBinary (s : String) : Bool := binaryOperators.contains s && s ≠ "=="

/-- Whether a file can be run: directories can be entered, and programs are in their directories. -/
def isRunnable (files : FileTree) (programs : List (List String)) (path : String) : Bool :=
  match files.find path, files.locate path with
  | .ok .directory, _ => true
  | .ok (.file _), .ok names => programs.any fun d => d.isPrefixOf names && names.length = d.length + 1
  | _, _ => false

/-- The directories in which there are programs. -/
def programDirectories : List (List String) := [
  ["usr", "local", "sbin"], ["usr", "local", "bin"], ["usr", "sbin"], ["usr", "bin"], ["sbin"], ["bin"]]

/-- Whether a test of a file holds. -/
def fileHolds (files : FileTree) (operator path : String) : Bool :=
  match files.find (pathOf path) with
  | .error _ => false
  | .ok entry =>
    let isDevice := (FileTree.names path).head? = some "dev"
    match operator, entry with
    | "-d", .directory => true
    | "-f", .file _ => !isDevice
    | "-s", .file content => !content.isEmpty
    | "-s", .directory => true
    | "-c", .file _ => isDevice
    | "-x", _ => isRunnable files programDirectories (pathOf path)
    | operator, _ => ["-e", "-r", "-w", "-O", "-G"].contains operator

/-- Whether a test of one thing holds. -/
def unaryHolds (files : FileTree) (operator a : String) : Bool :=
  match operator with
  | "-z" => a.isEmpty
  | "-n" => !a.isEmpty
  | _ => fileHolds files operator a

/-- The number that an argument writes in decimal digits, with blanks around it. -/
def number (s : String) : Except String Int :=
  let cs := ((s.toList.dropWhile Sum.isBlank).reverse.dropWhile Sum.isBlank).reverse
  let digits := if cs.head? = some '-' ∨ cs.head? = some '+' then cs.drop 1 else cs
  match (String.ofList digits).toNat? with
  | some n =>
    if digits.all Char.isDigit then .ok (if cs.head? = some '-' then -(n : Int) else n)
    else .error ("Illegal number: " ++ s)
  | none => .error ("Illegal number: " ++ s)

/-- Whether a test of two things holds. -/
def binaryHolds (operator a b : String) : Except String Bool :=
  match operator with
  | "=" => .ok (a = b)
  | "!=" => .ok (a ≠ b)
  | "<" => .ok (a < b)
  | ">" => .ok (b < a)
  | "-eq" => do return (← number a) = (← number b)
  | "-ne" => do return (← number a) ≠ (← number b)
  | "-ge" => do return (← number b) ≤ (← number a)
  | "-gt" => do return (← number b) < (← number a)
  | "-le" => do return (← number a) ≤ (← number b)
  | "-lt" => do return (← number a) < (← number b)
  | "-ef" => .ok (a = b)
  | _ => .ok false

/-- Whether the first argument is an operator that is not meant as a text. -/
def isOperator (args : List String) : Bool :=
  match args with
  | [] => false
  | a :: rest =>
    if isUnary a then
      match rest with
      | [] => false
      | [_] => true
      | b :: c :: _ => !(isBinary b && c ≠ ")")
    else if a = "(" then !rest.isEmpty
    else true

/-- What is tested and whether it holds, and the arguments after it; or what is wrong. -/
abbrev Reading := Except String (Bool × List String)

mutual

/-- Tests of which one has to hold. -/
def disjunction (files : FileTree) : Nat → List String → Reading
  | 0, _ => .error "too many arguments"
  | fuel + 1, args => do
    let (a, rest) ← conjunction files fuel args
    match rest with
    | "-o" :: rest =>
      let (b, rest) ← disjunction files fuel rest
      return (a || b, rest)
    | _ => return (a, rest)

/-- Tests all of which have to hold. -/
def conjunction (files : FileTree) : Nat → List String → Reading
  | 0, _ => .error "too many arguments"
  | fuel + 1, args => do
    let (a, rest) ← negation files fuel args
    match rest with
    | "-a" :: rest =>
      let (b, rest) ← conjunction files fuel rest
      return (a && b, rest)
    | _ => return (a, rest)

/-- A test, which may be negated. -/
def negation (files : FileTree) : Nat → List String → Reading
  | 0, _ => .error "too many arguments"
  | fuel + 1, args => do
    match args with
    | "!" :: rest =>
      if rest.isEmpty then return (true, [])
      let (a, rest) ← negation files fuel rest
      return (!a, rest)
    | _ => single files fuel args

/-- A single test, or tests in parentheses. -/
def single (files : FileTree) : Nat → List String → Reading
  | 0, _ => .error "too many arguments"
  | fuel + 1, args => do
    match args with
    | [] => return (false, [])
    | a :: rest =>
      if a = "(" ∧ isOperator args then
        let (b, rest) ← disjunction files fuel rest
        match rest with
        | ")" :: rest => return (b, rest)
        | _ => throw "closing paren expected"
      else if isUnary a ∧ isOperator args then
        match rest with
        | b :: rest => return (unaryHolds files a b, rest)
        | [] => throw (a ++ ": argument expected")
      else
        match rest with
        | operator :: b :: rest =>
          if isBinary operator then return (← binaryHolds operator a b, rest)
          else return (!a.isEmpty, operator :: b :: rest)
        | [operator] =>
          if isBinary operator then throw (operator ++ ": argument expected")
          else return (!a.isEmpty, [operator])
        | [] => return (!a.isEmpty, [])

end

/-- Whether what the arguments say is true. -/
def holds (files : FileTree) (args : List String) : Except String Bool := do
  let fuel := 8 * args.length + 16
  match args with
  | [a, operator, b] =>
    if isBinary operator then binaryHolds operator a b
    else if operator = "-a" then return !a.isEmpty && !b.isEmpty
    else if operator = "-o" then return !a.isEmpty || !b.isEmpty
    else if a = "(" ∧ b = ")" then return !operator.isEmpty
    else check (← disjunction files fuel args)
  | _ => check (← disjunction files fuel args)
where
  /-- The result, if no argument is left over; otherwise the last one that was read is to blame. -/
  check : Bool × List String → Except String Bool
    | (b, []) => .ok b
    | (_, rest) => .error ((args[args.length - rest.length - 1]?).getD "" ++ ": unexpected operator")

end Condition

namespace Tool

/-- Tests arguments under a name. -/
def testAs (name : String) (args : List String) (files : FileTree) : Streams :=
  match Condition.holds files args with
  | .ok true => {}
  | .ok false => { code := 1 }
  | .error message => .failure (name ++ ": " ++ message) 2

/-- Tests its arguments. -/
def test : Tool := fun c => testAs "test" c.arguments c.files

/-- Tests its arguments up to a closing bracket, of which a name is given for the complaint that there
is none. -/
def bracket (closing : String) : Tool := fun c =>
  if c.arguments.getLast? = some "]" then testAs "[" c.arguments.dropLast c.files
  else .failure ("[: missing " ++ closing) 2

end Tool

end CwlCompliance.Script
