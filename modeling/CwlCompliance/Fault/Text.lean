import CwlCompliance.Fault
import CwlCompliance.Text.Quoted

/-!
# How faults are shown

A fault is shown on one line, with its details in a list, or as a report of several lines.  Both
sort the details as they find them, by their names.

## Main definitions

* `Details.sort` — details in their order.
* `Fault.display` — a fault on one line, with its cause on a second.
* `Fault.report` — a fault over several lines.
* `warning` — the lines of a warning.
-/

namespace CwlCompliance

namespace Details

/-- Whether one detail comes before another or is the same: by name, and by value under one name. -/
def inOrder (x y : String × String) : Bool := decide (x.1 < y.1 ∨ x.1 = y.1 ∧ ¬y.2 < x.2)

/-- Sorted details with one more in its place. -/
def place (x : String × String) : Details → Details
  | [] => [x]
  | y :: rest => if inOrder x y then x :: y :: rest else y :: place x rest

/-- Details in their order, whatever order they are found in. -/
def sort (pairs : List (String × String)) : Details := pairs.foldr place []

/-- A detail in parentheses. -/
def pair (d : String × String) : String :=
  "(" ++ Text.quoted d.1 ++ ", " ++ Text.quoted d.2 ++ ")"

/-- Details as a list. -/
def listing (d : Details) : String := "[" ++ ", ".intercalate (d.map pair) ++ "]"

end Details

namespace Fault

/-- A fault on one line; `unique` completes a code that was made up. -/
def display (unique : String) (f : Fault) : String :=
  "[" ++ f.code.text unique ++ "] " ++ f.category.name ++ ": " ++ f.message ++
    (if f.details.isEmpty then "" else " (Context: " ++ (Details.sort f.details).listing ++ ")") ++
    (match f.cause with
      | none => ""
      | some cause => "\nCaused by: " ++ cause)

/-- The lines that report a fault; `unique` completes a code that was made up. -/
def report (unique : String) (f : Fault) : String :=
  "[" ++ f.severity.name ++ "] " ++ f.code.text unique ++ ": " ++ f.message ++ "\n" ++
    String.join ((Details.sort f.details).map fun (name, value) =>
      "  " ++ name ++ ": " ++ value ++ "\n") ++
    (match f.cause with
      | none => ""
      | some cause => "  Caused by: " ++ cause ++ "\n") ++
    String.join (f.hints.map fun hint => "  Hint: " ++ hint ++ "\n")

end Fault

/-- The lines of a warning. -/
def warning (message : String) (context : Option String) : String :=
  "[WARNING] " ++ message ++ "\n" ++
    (match context with
      | none => ""
      | some c => "  Context: " ++ c ++ "\n")

end CwlCompliance
