/-!
# Arithmetic

Arithmetic expressions of scripts, over integers of 64 bits: how they are read and what they come to.

## Main definitions

* `Sum`, `Sum.ofText` — an expression, and how it is read.
* `Sum.integer?` — the integer that a text writes.
* `Sum.value` — what an expression comes to, given the variables.
-/

namespace CwlCompliance.Script

/-- An arithmetic expression. -/
inductive Sum where
  /-- An integer. -/
  | number (n : Int)
  /-- A variable. -/
  | variable (name : String)
  /-- A sign before an expression. -/
  | unary (sign : String) (a : Sum)
  /-- A sign between two expressions. -/
  | binary (sign : String) (a b : Sum)
  /-- Whether both are not zero; the second counts only if the first is not zero. -/
  | both (a b : Sum)
  /-- Whether one is not zero; the second counts only if the first is zero. -/
  | either (a b : Sum)
  /-- One of two, depending on whether the first is zero. -/
  | choice (test yes no : Sum)
  /-- An assignment, after combining the old value by a sign if there is one. -/
  | assign (name : String) (sign? : Option String) (a : Sum)
  deriving Repr

namespace Sum

/-- A token of an expression. -/
inductive Token where
  /-- An integer. -/
  | number (n : Int)
  /-- A name. -/
  | name (s : String)
  /-- A sign. -/
  | sign (s : String)
  /-- Anything else. -/
  | bad
  deriving DecidableEq, Repr

/-- The largest integer. -/
def greatest : Int := 9223372036854775807

/-- An integer of 64 bits, from any integer. -/
def wrap (n : Int) : Int := Int.bmod n (Nat.pow 2 64)

/-- The value of a digit. -/
def digit? (c : Char) : Option Nat :=
  if c.isDigit then some (c.toNat - 48)
  else if 'a' ≤ c ∧ c ≤ 'f' then some (c.toNat - 87)
  else if 'A' ≤ c ∧ c ≤ 'F' then some (c.toNat - 55)
  else none

/-- The number that the digits at the start of a text write, and what follows them. -/
def digitsFrom (base : Nat) : Nat → List Char → Nat × List Char
  | acc, [] => (acc, [])
  | acc, c :: rest =>
    match digit? c with
    | some d => if d < base then digitsFrom base (acc * base + d) rest else (acc, c :: rest)
    | none => (acc, c :: rest)

/-- The number at the start of a text, and what follows it: in base 8 after a zero, in base 16 after a
zero and an x. -/
def numberFrom (cs : List Char) : Nat × List Char :=
  match cs with
  | '0' :: x :: d :: rest =>
    if (x = 'x' ∨ x = 'X') ∧ (digit? d).isSome then digitsFrom 16 0 (d :: rest)
    else digitsFrom 8 0 (x :: d :: rest)
  | '0' :: rest => digitsFrom 8 0 rest
  | cs => digitsFrom 10 0 cs

/-- Whether a character is a blank in an expression. -/
def isBlank (c : Char) : Bool := c = ' ' || ('\t' ≤ c && c ≤ '\r')

/-- The integer that a text writes, with blanks around it and a sign; an empty text writes zero. -/
def integer? (s : String) : Option Int :=
  let cs := s.toList.dropWhile isBlank
  let negative := cs.head? = some '-'
  let digits := if negative ∨ cs.head? = some '+' then cs.drop 1 else cs
  if s.isEmpty then some 0
  else if !(digits.head?.any Char.isDigit) then none
  else
    let (n, rest) := numberFrom digits
    if rest.all isBlank then
      some (if negative then max (-(n : Int)) (-greatest - 1) else min n greatest)
    else none

/-- The signs, longer ones before those that they start with. -/
def signs : List String := [
  "<<=", ">>=", "&&", "||", "<<", ">>", "<=", ">=", "==", "!=", "+=", "-=", "*=", "/=", "%=", "&=", "^=",
  "|=", "+", "-", "*", "/", "%", "<", ">", "&", "^", "|", "!", "~", "?", ":", "=", "(", ")"]

/-- The tokens of a text; `n` bounds their number. -/
def tokens : Nat → List Char → List Token
  | 0, _ => []
  | _, [] => []
  | n + 1, c :: rest =>
    if isBlank c then tokens n rest
    else if c.isDigit then
      let (v, left) := numberFrom (c :: rest)
      .number (min v greatest) :: tokens n left
    else if c.isAlpha || c = '_' then
      let name := c :: rest.takeWhile fun d => d.isAlphanum || d = '_'
      .name (String.ofList name) :: tokens n ((c :: rest).drop name.length)
    else
      match signs.find? fun s => s.toList.isPrefixOf (c :: rest) with
      | some s => .sign s :: tokens n ((c :: rest).drop s.length)
      | none => [.bad]

/-! ### Grammar -/

/-- The signs between expressions, those that bind more strongly first. -/
def levels : List (List String) := [
  ["*", "/", "%"], ["+", "-"], ["<<", ">>"], ["<", "<=", ">", ">="], ["==", "!="], ["&"], ["^"], ["|"]]

/-- The sign that an assignment combines with. -/
def combined? (sign : String) : Option String :=
  [("+=", "+"), ("-=", "-"), ("*=", "*"), ("/=", "/"), ("%=", "%"), ("<<=", "<<"), (">>=", ">>"),
    ("&=", "&"), ("^=", "^"), ("|=", "|")].lookup sign

/-- What is read, and the tokens that are left; or what is missing. -/
abbrev Reading := Except String (Sum × List Token)

mutual

/-- An operand. -/
def operand : Nat → List Token → Reading
  | 0, _ => .error "expecting primary"
  | fuel + 1, ts =>
    match ts with
    | .number n :: rest => .ok (.number n, rest)
    | .name s :: rest => .ok (.variable s, rest)
    | .sign "(" :: rest => do
      let (a, left) ← assignment fuel rest
      match left with
      | .sign ")" :: left => return (a, left)
      | _ => throw "expecting ')'"
    | .sign s :: rest =>
      if ["+", "-", "!", "~"].contains s then do
        let (a, left) ← operand fuel rest
        return (.unary s a, left)
      else .error "expecting primary"
    | _ => .error "expecting primary"

/-- The rest of an expression at a level, after an operand. -/
def further (level : List String) (above : List (List String)) : Nat → Sum → List Token → Reading
  | 0, _, _ => .error "expecting primary"
  | fuel + 1, a, ts =>
    match ts with
    | .sign s :: rest =>
      if level.contains s then do
        let (b, left) ← atLevel above fuel rest
        further level above fuel (.binary s a b) left
      else .ok (a, ts)
    | _ => .ok (a, ts)

/-- An expression of operands and signs of these levels, the one that binds least first. -/
def atLevel (descending : List (List String)) : Nat → List Token → Reading
  | 0, _ => .error "expecting primary"
  | fuel + 1, ts =>
    match descending with
    | [] => operand fuel ts
    | level :: above => do
      let (a, left) ← atLevel above fuel ts
      further level above fuel a left

/-- Expressions of which both have to be not zero. -/
def conjunction : Nat → List Token → Reading
  | 0, _ => .error "expecting primary"
  | fuel + 1, ts => do
    let (a, left) ← atLevel levels.reverse fuel ts
    match left with
    | .sign "&&" :: rest =>
      let (b, left) ← conjunction fuel rest
      return (.both a b, left)
    | _ => return (a, left)

/-- Expressions of which one has to be not zero. -/
def disjunction : Nat → List Token → Reading
  | 0, _ => .error "expecting primary"
  | fuel + 1, ts => do
    let (a, left) ← conjunction fuel ts
    match left with
    | .sign "||" :: rest =>
      let (b, left) ← disjunction fuel rest
      return (.either a b, left)
    | _ => return (a, left)

/-- A choice. -/
def conditional : Nat → List Token → Reading
  | 0, _ => .error "expecting primary"
  | fuel + 1, ts => do
    let (a, left) ← disjunction fuel ts
    match left with
    | .sign "?" :: rest =>
      let (b, left) ← assignment fuel rest
      match left with
      | .sign ":" :: rest =>
        let (c, left) ← conditional fuel rest
        return (.choice a b c, left)
      | _ => throw "expecting ':'"
    | _ => return (a, left)

/-- An assignment, or an expression without one. -/
def assignment : Nat → List Token → Reading
  | 0, _ => .error "expecting primary"
  | fuel + 1, ts =>
    match ts with
    | .name s :: .sign sign :: rest =>
      if sign = "=" ∨ (combined? sign).isSome then do
        let (a, left) ← assignment fuel rest
        return (.assign s (combined? sign) a, left)
      else conditional fuel ts
    | _ => conditional fuel ts

end

/-- The expression that a text writes, or what is missing. -/
def ofText (cs : List Char) : Except String Sum := do
  let ts := tokens cs.length cs
  let (a, left) ← assignment (16 * ts.length + 32) ts
  if left.isEmpty then return a else throw "expecting EOF"

/-! ### Values -/

/-- Why an expression comes to nothing. -/
inductive Fault where
  /-- Something is wrong with the expression. -/
  | wrong (what : String)
  /-- The value of a variable is no number. -/
  | notNumber (text : String)
  deriving DecidableEq, Repr

/-- Zero or one. -/
def ofBool (b : Bool) : Int := if b then 1 else 0

/-- The bits of an integer. -/
def bits (n : Int) : UInt64 := UInt64.ofInt n

/-- The integer with some bits. -/
def ofBits (b : UInt64) : Int := wrap b.toNat

/-- What a sign makes of an integer. -/
def unaryValue (sign : String) (a : Int) : Int :=
  match sign with
  | "-" => wrap (-a)
  | "!" => ofBool (a = 0)
  | "~" => wrap (-a - 1)
  | _ => a

/-- What a sign makes of two integers. -/
def binaryValue (sign : String) (a b : Int) : Except Fault Int :=
  match sign with
  | "*" => .ok (wrap (a * b))
  | "/" => if b = 0 then .error (.wrong "division by zero") else .ok (wrap (Int.tdiv a b))
  | "%" => if b = 0 then .error (.wrong "division by zero") else .ok (wrap (Int.tmod a b))
  | "+" => .ok (wrap (a + b))
  | "-" => .ok (wrap (a - b))
  | "<<" => .ok (wrap (a * (Nat.pow 2 (b % 64).toNat : Nat)))
  | ">>" => .ok (Int.fdiv a (Nat.pow 2 (b % 64).toNat : Nat))
  | "<" => .ok (ofBool (a < b))
  | "<=" => .ok (ofBool (a ≤ b))
  | ">" => .ok (ofBool (b < a))
  | ">=" => .ok (ofBool (b ≤ a))
  | "==" => .ok (ofBool (a = b))
  | "!=" => .ok (ofBool (a ≠ b))
  | "&" => .ok (ofBits (bits a &&& bits b))
  | "^" => .ok (ofBits (bits a ^^^ bits b))
  | _ => .ok (ofBits (bits a ||| bits b))

/-- The variables that are assigned in an expression, the last first. -/
abbrev Assigned := List (String × Int)

/-- The value of a variable, given the values before the expression. -/
def variableValue (lookup : String → String) (assigned : Assigned) (name : String) :
    Except Fault Int :=
  match assigned.lookup name with
  | some n => .ok n
  | none =>
    match integer? (lookup name) with
    | some n => .ok n
    | none => .error (.notNumber (lookup name))

/-- What an expression comes to, and what is assigned in it. -/
def value (lookup : String → String) : Sum → Assigned → Except Fault (Int × Assigned)
  | number n, vs => .ok (n, vs)
  | .variable name, vs => do return (← variableValue lookup vs name, vs)
  | unary sign a, vs => do
    let (x, vs) ← value lookup a vs
    return (unaryValue sign x, vs)
  | binary sign a b, vs => do
    let (x, vs) ← value lookup a vs
    let (y, vs) ← value lookup b vs
    return (← binaryValue sign x y, vs)
  | both a b, vs => do
    let (x, vs) ← value lookup a vs
    if x = 0 then return (0, vs)
    let (y, vs) ← value lookup b vs
    return (ofBool (y ≠ 0), vs)
  | either a b, vs => do
    let (x, vs) ← value lookup a vs
    if x ≠ 0 then return (1, vs)
    let (y, vs) ← value lookup b vs
    return (ofBool (y ≠ 0), vs)
  | choice test yes no, vs => do
    let (x, vs) ← value lookup test vs
    if x ≠ 0 then value lookup yes vs else value lookup no vs
  | assign name sign? a, vs => do
    let (x, vs) ← value lookup a vs
    match sign? with
    | none => return (x, (name, x) :: vs)
    | some sign =>
      let old ← variableValue lookup vs name
      let new ← binaryValue sign old x
      return (new, (name, new) :: vs)

end Sum

end CwlCompliance.Script
