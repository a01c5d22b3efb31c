/-!
# TOML values

The values that a TOML text writes, and the tables that are built up while it is read.  A table
remembers how it came about, because that decides whether more may be added to it.

## Main definitions

* `Toml.Value` — the values.
* `Toml.Item`, `Toml.Table` — tables that are being built.
* `Toml.Table.modifyAt`, `Toml.Table.insertAt`, `Toml.Table.openTable`, `Toml.Table.openElement` —
  how they are built.
-/

namespace CwlCompliance.Toml

/-- A TOML value.  Of numbers with a point and of dates only the text is kept. -/
inductive Value where
  /-- A text. -/
  | string (s : String)
  /-- An integer. -/
  | integer (i : Int)
  /-- A number with a point or an exponent. -/
  | float (text : String)
  /-- A truth value. -/
  | boolean (b : Bool)
  /-- A date or a time. -/
  | datetime (text : String)
  /-- A list. -/
  | array (items : List Value)
  /-- A table, in the order of its keys in the text. -/
  | table (entries : List (String × Value))
  deriving Repr, Inhabited

mutual

/-- What a table that is being built holds under a key. -/
inductive Item where
  /-- A value, to which nothing can be added. -/
  | value (v : Value)
  /-- A table. -/
  | table (t : Table)
  /-- The tables of an array, the last one first. -/
  | elements (list : List Table)

/-- A table that is being built. -/
structure Table where
  /-- Whether it came about only on the way to another one. -/
  isImplicit : Bool
  /-- Whether it came about through a key with dots. -/
  isDotted : Bool
  /-- What it holds. -/
  entries : List (String × Item)

end

namespace Table

/-- A table that holds nothing. -/
def empty (isImplicit isDotted : Bool) : Table := { isImplicit, isDotted, entries := [] }

/-- What is under a key. -/
def get? (t : Table) (key : String) : Option Item := t.entries.lookup key

/-- The table with something else under a key. -/
def put (t : Table) (key : String) (item : Item) : Table :=
  { t with
    entries :=
      if (t.get? key).isSome then t.entries.map fun e => if e.1 == key then (key, item) else e
      else t.entries ++ [(key, item)] }

/-- The table after a change to the table at the end of some keys.  Tables on the way that are not
there come about.  A key with dots does not lead into a table that was declared by itself. -/
def modifyAt (dotted : Bool) : List String → (Table → Option Table) → Table → Option Table
  | [], f, t => f t
  | key :: rest, f, t =>
    match t.get? key with
    | none => do return t.put key (.table (← modifyAt dotted rest f (.empty true dotted)))
    | some (.value _) => none
    | some (.elements []) => none
    | some (.elements (last :: before)) => do
      return t.put key (.elements ((← modifyAt dotted rest f last) :: before))
    | some (.table child) =>
      if dotted && !child.isImplicit then none
      else do return t.put key (.table (← modifyAt dotted rest f child))

/-- The table with a value under a key with dots, of which `path` is all but the last part. -/
def insertAt (path : List String) (key : String) (v : Value) (t : Table) : Option Table :=
  t.modifyAt true path fun t =>
    if t.isDotted == path.isEmpty || (t.get? key).isSome then none else some (t.put key (.value v))

/-- The table after the header of a table, of which `path` is all but the last part.  Only a table
that came about on the way to another one can be declared by itself. -/
def openTable (path : List String) (key : String) (t : Table) : Option Table :=
  t.modifyAt false path fun t =>
    match t.get? key with
    | none => some (t.put key (.table (.empty false false)))
    | some (.table child) =>
      if child.isImplicit && !child.isDotted then
        some (t.put key (.table { child with isImplicit := false }))
      else none
    | some _ => none

/-- The table after the header of an element of an array of tables. -/
def openElement (path : List String) (key : String) (t : Table) : Option Table :=
  t.modifyAt false path fun t =>
    match t.get? key with
    | none => some (t.put key (.elements [.empty false false]))
    | some (.elements list) => some (t.put key (.elements (.empty false false :: list)))
    | some _ => none

end Table

mutual

/-- The value that an item comes to. -/
def Item.toValue : Item → Value
  | .value v => v
  | .table ⟨_, _, entries⟩ => .table (entriesToValues entries)
  | .elements list => .array (elementsToValues list)

/-- The values that entries come to. -/
def entriesToValues : List (String × Item) → List (String × Value)
  | [] => []
  | (k, item) :: rest => (k, item.toValue) :: entriesToValues rest

/-- The values that the tables of an array come to, the first one first. -/
def elementsToValues : List Table → List Value
  | [] => []
  | ⟨_, _, entries⟩ :: rest => elementsToValues rest ++ [.table (entriesToValues entries)]

end

/-- The entries that a table comes to. -/
def Table.toEntries (t : Table) : List (String × Value) := entriesToValues t.entries

end CwlCompliance.Toml
