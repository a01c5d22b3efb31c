/-!
# Patterns

A directive can ask for a field whose value matches a pattern, a regular expression.  Patterns are
matched byte by byte without tables of Unicode properties, so what needs such a table, or could match
a part of a character, is refused.

## Main definitions

* `Pattern`, `Pattern.Members` — patterns, and what stands in brackets in them.
* `Pattern.depth` — how deeply a pattern is nested.
* `Pattern.isMatchable` — whether a pattern can be matched.
-/

namespace CwlCompliance

namespace Pattern

/-! ### Flags -/

/-- A way of reading or matching a pattern that can be switched. -/
inductive Flag where
  /-- Capital and small letters are the same. -/
  | ignoreCase
  /-- Lines have starts and ends of their own. -/
  | multiLine
  /-- A dot stands for a line feed too. -/
  | dotAll
  /-- Repetitions are as short as can be. -/
  | swapGreed
  /-- Characters are meant, not bytes. -/
  | unicode
  /-- A carriage return ends a line too. -/
  | crlf
  /-- Blanks and comments are skipped. -/
  | spaced
  deriving DecidableEq, Repr

/-- What stands in a list of flags. -/
inductive FlagItem where
  /-- The flags after it are switched off. -/
  | off
  /-- A flag. -/
  | flag (f : Flag)
  deriving DecidableEq, Repr

/-- What a list makes of a flag, if it names it. -/
def switched? (f : Flag) (items : List FlagItem) : Option Bool :=
  if items.contains (.flag f) then some (!(items.takeWhile (· ≠ .flag f)).contains .off) else none

/-- The flags that decide what can be matched. -/
structure Mode where
  /-- Whether capital and small letters are the same. -/
  ignoresCase : Bool := false
  /-- Whether characters are meant, not bytes. -/
  isUnicode : Bool := true
  deriving DecidableEq, Repr

/-- The mode after a list of flags. -/
def Mode.switch (m : Mode) (items : List FlagItem) : Mode :=
  { ignoresCase := (switched? .ignoreCase items).getD m.ignoresCase
    isUnicode := (switched? .unicode items).getD m.isUnicode }

/-! ### Patterns -/

/-- A character that stands for itself. -/
structure Literal where
  /-- The character. -/
  char : Char
  /-- Whether it is written as a byte, by two hexadecimal digits. -/
  isByte : Bool := false
  deriving DecidableEq, Repr

/-- What stands in brackets: characters, one of which is meant. -/
inductive Members where
  /-- A character. -/
  | literal (l : Literal)
  /-- The characters from one to another. -/
  | range (low high : Literal)
  /-- The characters of a named class of ASCII, or all others. -/
  | named (negated : Bool)
  /-- Digits, blanks or word characters, or all others. -/
  | shorthand (negated : Bool)
  /-- More brackets. -/
  | bracketed (negated : Bool) (members : Members)
  /-- All of these. -/
  | union (list : List Members)
  /-- Two of them, combined. -/
  | combined (left right : Members)
  deriving Repr

end Pattern

/-- A pattern. -/
inductive Pattern where
  /-- Flags for what follows. -/
  | flags (items : List Pattern.FlagItem)
  /-- A character. -/
  | literal (l : Pattern.Literal)
  /-- Any character. -/
  | dot
  /-- A place: the start or end of a line or text, or, if `atWord`, of a word. -/
  | place (atWord : Bool)
  /-- Digits, blanks or word characters, or all others. -/
  | shorthand (negated : Bool)
  /-- Brackets. -/
  | bracketed (negated : Bool) (members : Pattern.Members)
  /-- A pattern that may be repeated. -/
  | repeated (p : Pattern)
  /-- A pattern in parentheses, with flags for it. -/
  | group (items : List Pattern.FlagItem) (p : Pattern)
  /-- One of these. -/
  | either (list : List Pattern)
  /-- All of these, one after the other. -/
  | sequence (list : List Pattern)
  deriving Repr

namespace Pattern

/-! ### Nesting -/

mutual

/-- How deeply members are nested. -/
def Members.depth : Members → Nat
  | .bracketed _ m => 1 + m.depth
  | .union list => 1 + Members.depthOfAll list
  | .combined l r => 1 + max l.depth r.depth
  | _ => 0

/-- How deeply the deepest of members is nested. -/
def Members.depthOfAll : List Members → Nat
  | [] => 0
  | m :: rest => max m.depth (Members.depthOfAll rest)

end

mutual

/-- How deeply a pattern is nested. -/
def depth : Pattern → Nat
  | .bracketed _ m => 1 + m.depth
  | .repeated p => 1 + p.depth
  | .group _ p => 1 + p.depth
  | .either list => if list.isEmpty then 0 else 1 + depthOfAll list
  | .sequence list => if list.isEmpty then 0 else 1 + depthOfAll list
  | _ => 0

/-- How deeply the deepest of patterns is nested. -/
def depthOfAll : List Pattern → Nat
  | [] => 0
  | p :: rest => max p.depth (depthOfAll rest)

end

/-- How deeply a pattern may be nested. -/
def maximumDepth : Nat := 250

/-! ### What can be matched -/

/-- Whether a literal can be matched.  Ignoring the case of a character takes a table, and a byte
outside ASCII is part of a character. -/
def Literal.isMatchable (m : Mode) (l : Literal) : Bool :=
  if m.isUnicode then !m.ignoresCase else !l.isByte || l.char.toNat < 0x80

/-- Whether a literal can be matched in brackets, where bytes are in ASCII. -/
def Literal.isMember (m : Mode) (l : Literal) : Bool :=
  if m.isUnicode then !m.ignoresCase else l.char.toNat < 0x80

mutual

/-- Whether members can be matched.  Shorthands of characters take a table, and all bytes but some
are no characters. -/
def Members.isMatchable (m : Mode) : Members → Bool
  | .literal l => l.isMember m
  | .range low high => low.isMember m && high.isMember m
  | .named negated => if m.isUnicode then !m.ignoresCase else !negated
  | .shorthand negated => !m.isUnicode && !negated
  | .bracketed negated members => (m.isUnicode || !negated) && members.isMatchable m
  | .union list => Members.areMatchable m list
  | .combined l r => l.isMatchable m && r.isMatchable m

/-- Whether all of some members can be matched. -/
def Members.areMatchable (m : Mode) : List Members → Bool
  | [] => true
  | x :: rest => x.isMatchable m && Members.areMatchable m rest

end

mutual

/-- The mode after a pattern, if it can be matched.  Flags hold to the end of their group. -/
def after? (m : Mode) : Pattern → Option Mode
  | .flags items => some (m.switch items)
  | .literal l => if l.isMatchable m then some m else none
  | .dot => if m.isUnicode then some m else none
  | .place atWord => if atWord && m.isUnicode then none else some m
  | .shorthand negated => if !m.isUnicode && !negated then some m else none
  | .bracketed negated members =>
    if (m.isUnicode || !negated) && members.isMatchable m then some m else none
  | .repeated p => p.after? m
  | .group items p => (p.after? (m.switch items)).map fun _ => m
  | .either list => afterAll? m list
  | .sequence list => afterAll? m list

/-- The mode after patterns, if they can be matched. -/
def afterAll? (m : Mode) : List Pattern → Option Mode
  | [] => some m
  | p :: rest => (p.after? m).bind fun m => afterAll? m rest

end

/-- Whether a pattern can be matched. -/
def isMatchable (p : Pattern) : Bool := p.depth ≤ maximumDepth && (p.after? {}).isSome

end Pattern

end CwlCompliance
