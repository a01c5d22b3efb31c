import CwlCompliance.Script.Builtin

/-!
# Running scripts

How scripts run: how words are expanded and commands carried out, and what comes of it.  A script can
go on without end; the number of steps one inside another is bounded.

## Main definitions

* `Run.parts`, `Run.fields` — how words are expanded.
* `Run.command`, `Run.commands` — how commands are carried out.
* `Run.program` — how programs are started.
* `Result`, `Script.execute` — what a program prints and how it ends.
-/

namespace CwlCompliance.Script

/-- A word in which a tilde at its start stands for the directory of the user. -/
def withHome (s : State) (w : Word) : Word :=
  match w with
  | .text ('~' :: more) false :: rest =>
    match s.lookup "HOME" with
    | some home =>
      if (more.isEmpty && rest.isEmpty) || more.head? = some '/' then
        .text home.toList true :: .text more false :: rest
      else w
    | none => w
  | w => w

/-- A text without the ends of lines at its end. -/
def withoutLastLines (cs : List Char) : List Char :=
  ((cs.filter (· ≠ '\x00')).reverse.dropWhile (· = '\n')).reverse

/-- The pieces of all parameters; in quotes each makes up a field of its own. -/
def parameterPieces (s : State) (isStar isQuoted : Bool) : List Piece :=
  if isStar && isQuoted then
    let joint := match s.lookup "IFS" with
      | some ifs => String.ofList (ifs.toList.take 1)
      | none => " "
    Piece.ofValue (joint.intercalate s.parameters) true
  else [Piece.boundary].intercalate (s.parameters.map fun p => Piece.ofValue p isQuoted)

/-- The words of an input, which are arguments of a program that is started. -/
def inputWords (cs : List Char) : List String :=
  (wordsBetween (fun c => c = ' ' || c = '\t' || c = '\n') cs).map String.ofList

/-- Words in groups of a size; `n` bounds their number. -/
def grouped (size : Nat) : Nat → List String → List (List String)
  | 0, _ => []
  | n + 1, ws => if ws.isEmpty then [] else ws.take size :: grouped size n (ws.drop size)

/-- What a program says that cannot start another. -/
def Starter.complaint (starter : Starter) (name other : String) (e : FileError) : String :=
  match starter with
  | environment => name ++ ": '" ++ other ++ "': " ++ e.reason
  | arguments => name ++ ": " ++ other ++ ": " ++ e.reason
  | plain _ => name ++ ": failed to run command '" ++ other ++ "': " ++ e.reason

namespace Run

mutual

/-- The pieces that a part of a word gives. -/
def part : Nat → Part → State → List Piece × State
  | 0, _, s => ([], s)
  | n + 1, p, s =>
    match p with
    | .text cs isQuoted => (Piece.ofText cs isQuoted, s)
    | .parameter name use isQuoted => parameter n name use isQuoted s
    | .output cs isQuoted =>
      let (out, t) := s.capture fun inner => commands n false cs { inner with traps := [], expansionCode? := none }
      let t := { t with code := s.code, expansionCode? := some t.code }
      (Piece.ofValue (String.ofList (withoutLastLines out)) isQuoted, t)
    | .value w isQuoted =>
      let (text, s) := text n w s
      if !s.goesOn then ([], s)
      else
        match Sum.ofText text.toList with
        | .error what => ([], s.fatal ("arithmetic expression: " ++ what ++ ": \"" ++ text ++ "\""))
        | .ok sum =>
          match sum.value (fun name => (s.parameter? name).getD "") [] with
          | .error (.wrong what) =>
            ([], s.fatal ("arithmetic expression: " ++ what ++ ": \"" ++ text ++ "\""))
          | .error (.notNumber value) => ([], s.fatal ("Illegal number: " ++ value))
          | .ok (v, assigned) =>
            let s := assigned.reverse.foldl
              (fun s (name, v) => if s.goesOn then s.assignChecked none name (toString v) else s) s
            (Piece.ofValue (toString v) isQuoted, s)
    | .invalid => ([], s.fatal "Bad substitution")

/-- The pieces that a parameter gives. -/
def parameter : Nat → String → Use → Bool → State → List Piece × State
  | 0, _, _, _, s => ([], s)
  | n + 1, name, use, isQuoted, s =>
    let isAll := name = "@" || name = "*"
    let value? := if isAll then (if s.parameters.isEmpty then none else some (" ".intercalate s.parameters))
      else s.parameter? name
    let own := if isAll then parameterPieces s (name = "*") isQuoted
      else Piece.ofValue (value?.getD "") isQuoted
    let isSet := fun (orEmpty : Bool) =>
      match value? with | some v => !(orEmpty && v.isEmpty) | none => false
    let isMissing := value?.isNone && !isAll && s.hasOption 'u'
    let unset := fun (s : State) => s.fatal (name ++ ": parameter not set")
    let instead := fun (w : Word) (s : State) =>
      let (ps, s) := parts n (withHome s w) s
      (if isQuoted then .mark :: ps else ps.map Piece.expanded, s)
    match use with
    | .plain => if isMissing then ([], unset s) else (own, s)
    | .length =>
      if isMissing then ([], unset s)
      else if isAll then (Piece.ofValue (toString s.parameters.length) isQuoted, s)
      else (Piece.ofValue (toString (value?.getD "").length) isQuoted, s)
    | .orWord orEmpty w => if isSet orEmpty then (own, s) else instead w s
    | .ifSet orEmpty w => if isSet orEmpty then instead w s else (if isQuoted then [.mark] else [], s)
    | .assign orEmpty w =>
      if isSet orEmpty then (own, s)
      else
        let (value, s) := text n w s
        if !s.goesOn then ([], s)
        else if isName name.toList then
          (Piece.ofValue value isQuoted, s.assignChecked none name value)
        else ([], s.fatal (name ++ ": bad variable name"))
    | .require orEmpty w =>
      if isSet orEmpty then (own, s)
      else
        let (message, s) := text n w s
        let message := if !w.isEmpty then message
          else if orEmpty then "parameter not set or null" else "parameter not set"
        ([], if s.goesOn then s.fatal (name ++ ": " ++ message) else s)
    | .dropStart longest w =>
      if isMissing then ([], unset s)
      else
        let (ps, s) := parts n w s
        let rest := (Glob.ofGlyphs (glyphsOf ps)).dropStart longest (value?.getD "").toList
        (Piece.ofValue (String.ofList rest) isQuoted, s)
    | .dropEnd longest w =>
      if isMissing then ([], unset s)
      else
        let (ps, s) := parts n w s
        let rest := (Glob.ofGlyphs (glyphsOf ps)).dropEnd longest (value?.getD "").toList
        (Piece.ofValue (String.ofList rest) isQuoted, s)

/-- The pieces that the parts of a word give. -/
def parts : Nat → Word → State → List Piece × State
  | 0, _, s => ([], s)
  | _, [], s => ([], s)
  | n + 1, p :: rest, s =>
    let (a, s) := part n p s
    if !s.goesOn then (a, s)
    else
      let (b, s) := parts n rest s
      (a ++ b, s)

/-- The text that a word gives where it is not divided. -/
def text : Nat → Word → State → String × State
  | 0, _, s => ("", s)
  | n + 1, w, s =>
    let (ps, s) := parts n (withHome s w) s
    (textOf ps, s)

/-- The fields that words give. -/
def fields : Nat → List Word → State → List String × State
  | 0, _, s => ([], s)
  | _, [], s => ([], s)
  | n + 1, w :: rest, s =>
    let (ps, s) := parts n (withHome s w) s
    if !s.goesOn then ([], s)
    else
      let found := (fieldsOf s.dividers ps).flatMap fun gs =>
        if s.hasOption 'f' then [String.ofList (gs.map (·.char))] else s.files.matching gs
      let (more, s) := fields n rest s
      (found ++ more, s)

/-- The streams after redirections, unless one of them fails. -/
def redirections : Nat → List Redirection → State → Bool × State
  | 0, _, s => (true, s)
  | _, [], s => (true, s)
  | n + 1, r :: rest, s =>
    let (isDone, s) :=
      match r with
      | .text stream w =>
        let (content, s) := text n w s
        let (k, s) := s.addBuffer content.toList
        (s.goesOn, s.redirect stream (some (.source k true)))
      | .copy stream w =>
        let (target, s) := text n w s
        if !s.goesOn then (false, s)
        else if target = "-" then (true, s.redirect stream none)
        else
          match natural? target with
          | none => (false, s.fatal "Syntax error: Bad fd number")
          | some k =>
            match s.channel? k with
            | some c => (true, s.redirect stream (some c))
            | none => (false, s.complain (target ++ ": Bad file descriptor"))
      | .file stream mode w =>
        let (path, s) := text n w s
        if !s.goesOn then (false, s)
        else if mode = Mode.read then
          if path = "/dev/stdin" then (true, s.redirect stream (s.channel? 0))
          else
            match s.files.read (pathOf path) with
            | .error .isDirectory | .ok [] =>
              let (k, s) := s.addBuffer []
              (true, s.redirect stream (some (.source k (path ≠ "/dev/null"))))
            | .ok bytes =>
              let (k, s) := s.addBuffer (Octets.ofBytes bytes)
              (true, s.redirect stream (some (.source k true)))
            | .error e =>
              let reason := if e = FileError.notFound then "No such file" else e.reason
              (false, s.complain ("cannot open " ++ path ++ ": " ++ reason))
        else if path = "/dev/null" then (true, s.redirect stream (some .nowhere))
        else if path = "/dev/stdout" then (true, s.redirect stream (s.channel? 1))
        else if path = "/dev/stderr" then (true, s.redirect stream (s.channel? 2))
        else
          match s.files.write (pathOf path) (mode ≠ Mode.write) [] with
          | .ok files => (true, { s with files }.redirect stream (some (.file path)))
          | .error e =>
            let reason := if e = FileError.notFound then "Directory nonexistent" else e.reason
            (false, s.complain ("cannot create " ++ path ++ ": " ++ reason))
    if isDone && s.goesOn then redirections n rest s else (false, s)

/-- Assignments, with their names and values. -/
def assignments : Nat → List (String × Word) → State → List (String × String) × State
  | 0, _, s => ([], s)
  | _, [], s => ([], s)
  | n + 1, (name, w) :: rest, s =>
    let (value, s) := text n w s
    let s := if s.goesOn then s.assignChecked none name value else s
    if !s.goesOn then ([], s)
    else
      let (more, s) := assignments n rest s
      ((name, value) :: more, s)

/-- A simple command, whose failure may be tested. -/
def simple : Nat → Bool → List (String × Word) → List Word → List Redirection → State → State
  | 0, _, _, _, _, s => s
  | n + 1, isTested, as, ws, rs, s =>
    let (words, s) := fields n ws { s with expansionCode? := none }
    if !s.goesOn then s
    else
      let outer := s
      let (isDone, s) := redirections n rs s
      let back := fun (t : State) => { t with channels := outer.channels }
      let isSpecial := words.head?.any specialBuiltins.contains
      if !isDone then
        if !s.goesOn then s
        else if isSpecial then (back s).ended (.exited 2) else (back s).withCode 2
      else
        let old := as.map fun a => (a.1, s.lookup a.1)
        let (values, s) := assignments n as s
        if !s.goesOn then back s
        else
          let shown := values.map (fun (name, v) => name ++ "=" ++ v) ++ words
          let s := if s.hasOption 'x' && !shown.isEmpty then
              s.writeTo (outer.channel? 2) ("+ " ++ " ".intercalate shown ++ "\n").toList
            else s
          match words with
          | [] => (back s).withCode (s.expansionCode?.getD 0)
          | "exec" :: args =>
            if args.isEmpty then s.withCode 0
            else
              let t := program n "exec: " args (values.foldl (fun s v => s.makeExported v.1) s)
              t.ended (match t.flow with | .ended e => e | _ => .exited t.code)
          | name :: args =>
            if isSpecial then back (special n isTested name args s)
            else
              let exported := s.exported
              let t := match s.functions.lookup name with
                | some body => function n isTested body args s
                | none => regular n isTested name args (values.foldl (fun s v => s.makeExported v.1) s)
              let t := old.foldl State.restore (back t)
              if values.isEmpty then t else { t with exported }

/-- A special command of the shell. -/
def special : Nat → Bool → String → List String → State → State
  | 0, _, _, _, s => s
  | n + 1, isTested, name, args, s =>
    match name with
    | "eval" => evaluate n isTested "eval: " (" ".intercalate args) (s.withCode 0)
    | "." =>
      match args with
      | [] => s.withCode 0
      | path :: _ =>
        if !path.toList.contains '/' then s.fatal (".: " ++ path ++ ": not found")
        else
          match s.files.read (pathOf path) with
          | .ok bytes =>
            let t := evaluate n isTested "" (String.ofList (Octets.ofBytes bytes)) (s.withCode 0)
            if t.flow = .returning then { t with flow := .onward } else t
          | .error e =>
            s.fatal (".: cannot open " ++ path ++ ": " ++
              (if e = FileError.notFound then "No such file" else e.reason))
    | _ => (s.builtin? name args).getD s

/-- A function that is called. -/
def function : Nat → Bool → Command → List String → State → State
  | 0, _, _, _, s => s
  | n + 1, isTested, body, args, s =>
    let t := command n isTested body
      { s with parameters := args, loops := 0, hidden := [] :: s.hidden }
    let t := (t.hidden.head?.getD []).foldl State.restore t
    { t with
      parameters := s.parameters, loops := s.loops, hidden := s.hidden
      flow := if t.flow = .returning then .onward else t.flow }

/-- A command of the shell that is not special, or a program. -/
def regular : Nat → Bool → String → List String → State → State
  | 0, _, _, _, s => s
  | n + 1, isTested, name, args, s =>
    match (builtinTools s.readsEscapes).lookup name with
    | some tool =>
      let o := tool (s.call args)
      s.apply { o with stderr := s.builtinComplaints o.stderr }
    | none =>
      if name = "command" then
        match args with
        | [] => s.withCode 0
        | "-v" :: rest => (rest.head?.map fun c => s.locateCommand c).getD s
        | "-V" :: rest => s.describe (rest.take 1)
        | "-p" :: other :: rest | other :: rest =>
          if specialBuiltins.contains other then special n isTested other rest s
          else regular n isTested other rest s
      else
        match s.builtin? name args with
        | some t => t
        | none => program n "" (name :: args) s

/-- A program that is started by its name.  What is said of one that is not found starts with a
given text. -/
def program : Nat → String → List String → State → State
  | 0, _, _, s => s
  | _, _, [], s => s
  | n + 1, intro, name :: args, s =>
    match s.files.program? (pathOf name) with
    | .error e =>
      if e = FileError.notPermitted then (s.complain (intro ++ name ++ ": Permission denied")).withCode 126
      else (s.complain (intro ++ name ++ ": not found")).withCode 127
    | .ok (.tool tool) => s.apply (tool (s.call args))
    | .ok (.shell readsEscapes) => shell n name readsEscapes args s
    | .ok .variablePrinter =>
      match args.head?.bind fun v => s.environment.lookup v with
      | some value => (s.write 1 (value ++ "\n").toList).withCode 0
      | none =>
        if args.isEmpty then
          (s.write 1 (String.join (s.environment.map fun (k, v) => k ++ "=" ++ v ++ "\n")).toList).withCode 0
        else s.withCode 1
    | .ok (.starter starter) => start n name starter args s

/-- A program that starts another one. -/
def start : Nat → String → Starter → List String → State → State
  | 0, _, _, _, s => s
  | n + 1, name, starter, args, s =>
    let go := fun (words : List String) (s : State) =>
      match words with
      | [] => s.withCode 0
      | other :: _ =>
        match s.files.program? (pathOf other) with
        | .ok _ => program n "" words s
        | .error e =>
          (s.write 2 (starter.complaint name other e ++ "\n").toList).withCode
            (if e = FileError.notPermitted then 126 else 127)
    match starter with
    | .environment =>
      let own := args.takeWhile fun a => a.toList.contains '=' || a = "-i" || a = "-"
      let clear := own.contains "-i" || own.contains "-"
      let inner := (own.filter fun a => a.toList.contains '=').foldl
        (fun s a =>
          let (k, v?) := State.assignmentOf a
          (s.assign k (v?.getD "")).makeExported k)
        (if clear then { s with values := [], exported := [] } else s)
      let rest := args.drop own.length
      let t := if rest.isEmpty then
          (inner.write 1 (String.join (inner.environment.map fun (k, v) => k ++ "=" ++ v ++ "\n")).toList).withCode 0
        else go rest inner
      { t with values := s.values, exported := s.exported }
    | .plain own =>
      let rest := if name = "nice" && args.head? = some "-n" then args.drop 2
        else args.dropWhile fun a => a.startsWith "-"
      go (rest.drop own) s
    | .arguments =>
      let o := ({ plain := ['r', 't', '0'], valued := ['n', 'I', 'L', 'd'], anywhere := false } :
        OptionTable).read args
      let words := inputWords s.input.1
      let s := s.setInput []
      let call := if o.operands.isEmpty then ["echo"] else o.operands
      match o.value? 'I' with
      | some mark =>
        let ls := (linesOf s.input.1).map String.ofList
        ls.foldl (fun s l => if s.goesOn then go (call.map fun w => w.replace mark l) s else s) (s.withCode 0)
      | none =>
        let size := ((o.value? 'n').bind String.toNat?).getD (words.length + 1)
        if words.isEmpty && o.has 'r' then s.withCode 0
        else
          let groups := if words.isEmpty then [[]] else grouped (max 1 size) words.length words
          let (s, failed) := groups.foldl
            (fun (s, failed) ws =>
              if !s.goesOn then (s, failed)
              else
                let s := go (call ++ ws) s
                (s, failed || (0 < s.code && s.code < 126)))
            (s.withCode 0, false)
          if failed then s.withCode 123 else s

/-- A shell that is started with arguments, options and a script or the path of one, at its end. -/
def shellEnd : Nat → String → Bool → List String → State → State
  | 0, _, _, _, s => s
  | n + 1, program, readsEscapes, args, s =>
    let options := args.takeWhile fun a =>
      (a.startsWith "-" || a.startsWith "+") && a ≠ "--" && a ≠ "-"
    let operands := match args.drop options.length with | "--" :: rest => rest | rest => rest
    let letters := options.flatMap fun a => if a.startsWith "-" then a.toList.drop 1 else []
    let start : State :=
      { name := program, readsEscapes
        values := s.environment, exported := s.environment.map (·.1)
        channels := s.channels, buffers := s.buffers, files := s.files, line := 0 }
    let start := start.assign "PWD" (Octets.text s.files.workingPath)
    let start := start.switchAll "" true (letters.filter fun c => c ≠ 'c' && c ≠ 's' && c ≠ 'i')
    if !start.goesOn then start
    else if letters.contains 'c' then
      match operands with
      | [] => start.fatal "-c requires an argument"
      | script :: name :: parameters => entry n script.toList { start with name, parameters }
      | [script] => entry n script.toList start
    else
      match (if letters.contains 's' then [] else operands) with
      | path :: parameters =>
        match s.files.read (pathOf path) with
        | .ok bytes => entry n (Octets.ofBytes bytes) { start with name := path, parameters }
        | .error .isDirectory => entry n [] { start with name := path, parameters }
        | .error e =>
          start.fatal
            ("cannot open " ++ path ++ ": " ++ (if e = FileError.notFound then "No such file" else e.reason))
      | [] => entry n start.input.1 { (start.setInput []) with parameters := operands }

/-- A shell that is waited for. -/
def shell : Nat → String → Bool → List String → State → State
  | 0, _, _, _, s => s
  | n + 1, program, readsEscapes, args, s =>
    let inner := shellEnd n program readsEscapes args s
    let t := s.afterSubshell { inner with flow := .onward }
    match inner.flow with
    | .ended (.killed signal) =>
      let epitaph := Signal.epitaph signal
      (if signal = 13 then t else t.write 2 (epitaph ++ "\n").toList).withCode (128 + signal)
    | _ => t

/-- A script from its first line on, and at its end the commands that are to run then. -/
def entry : Nat → List Char → State → State
  | 0, _, s => s
  | n + 1, cs, s =>
    let t := evaluate n false "" (String.ofList cs) { s with line := 1 }
    match t.flow, t.traps.lookup "EXIT" with
    | .ended (.killed _), _ => t
    | flow, some action =>
      let code := match flow with | .ended e => e.code | _ => t.code
      let u := evaluate n false "" action { t with flow := .onward, code, traps := t.traps.filter (·.1 ≠ "EXIT") }
      match u.flow with
      | .ended e => u.ended e
      | _ => u.ended (.exited code)
    | _, none => t

/-- The commands that a text writes.  What is said of a fault in it starts with a given text. -/
def evaluate : Nat → Bool → String → String → State → State
  | 0, _, _, _, s => s
  | n + 1, isTested, intro, source, s =>
    let script := ofText source.toList
    let t := commands n isTested script.commands s
    match script.fault? with
    | some (line, f) =>
      if t.goesOn then { t with line }.fatal (intro ++ "Syntax error: " ++ f.message) else t
    | none => t

/-- The commands that are to run on signals that have come. -/
def pendingActions : Nat → State → State
  | 0, s => s
  | n + 1, s =>
    match s.pending with
    | [] => s
    | action :: rest =>
      if !s.goesOn then s
      else
        let t := evaluate n false "" action { s with pending := rest }
        pendingActions n (if t.goesOn then t.withCode s.code else t)

/-- Commands one after another, as long as the script goes on with the next. -/
def commands : Nat → Bool → List Command → State → State
  | 0, _, _, s => s
  | _, _, [], s => s
  | n + 1, isTested, c :: rest, s =>
    let s := command n isTested c s
    if s.goesOn then commands n isTested rest s else s

/-- A command whose failure may be tested; otherwise it can end the script. -/
def command : Nat → Bool → Command → State → State
  | 0, _, _, s => s
  | n + 1, isTested, c, s =>
    let checked := fun (t : State) =>
      if t.goesOn && !isTested && t.code ≠ 0 && t.hasOption 'e' then t.ended (.exited t.code) else t
    if s.hasOption 'n' then s
    else
      match c with
      | .simple line as ws rs => pendingActions n (checked (simple n isTested as ws rs { s with line }))
      | .pipeline cs => checked (pipeline n cs s)
      | .negation c =>
        let t := command n true c s
        if t.goesOn then t.withCode (if t.code = 0 then 1 else 0) else t
      | .andThen a b =>
        let t := command n true a s
        if t.goesOn && t.code = 0 then command n isTested b t else t
      | .orElse a b =>
        let t := command n true a s
        if t.goesOn && t.code ≠ 0 then command n isTested b t else t
      | .sequence cs => commands n isTested cs s
      | .background c =>
        let t := command n false c ({ s with traps := [] }.redirect 0 (some .nowhere))
        (s.afterSubshell t).withCode 0
      | .subshell cs => checked (s.afterSubshell (commands n isTested cs { s with traps := [] }))
      | .redirected line c rs =>
        let (isDone, t) := redirections n rs { s with line }
        let back := fun (t : State) => { t with channels := s.channels }
        if isDone then back (command n isTested c t)
        else if t.goesOn then checked ((back t).withCode 2) else back t
      | .choice test yes no =>
        let t := commands n true test s
        if !t.goesOn then t
        else if t.code = 0 then commands n isTested yes t
        else if no.isEmpty then t.withCode 0
        else commands n isTested no t
      | .loop isUntil test body =>
        let t := loop n isUntil isTested test body { s with loops := s.loops + 1, code := 0 } 0
        { t with loops := s.loops }
      | .each line name ws? body =>
        let (words, t) := match ws? with
          | some ws => fields n ws { s with line }
          | none => (s.parameters, s)
        if !t.goesOn then t
        else
          let t := each n isTested name words body { t with loops := s.loops + 1, code := 0 }
          { t with loops := s.loops }
      | .select line w arms =>
        let (value, t) := text n w { s with line }
        if t.goesOn then choose n isTested value arms t else t
      | .define name body =>
        { s with functions := (name, body) :: s.functions.filter (·.1 ≠ name), code := 0 }

/-- Commands each of which reads what the one before it prints. -/
def pipeline : Nat → List Command → State → State
  | 0, _, s => s
  | _, [], s => s
  | n + 1, [c], s => s.afterSubshell (command n true c { s with traps := [] })
  | n + 1, c :: rest, s =>
    let (out, t) := s.capture fun inner => command n true c { inner with traps := [] }
    if !t.goesOn then t
    else
      let (k, u) := t.addBuffer out
      let v := pipeline n rest (u.redirect 0 (some (.source k false)))
      { v with channels := s.channels }

/-- What a loop goes on with after its body, and whether it goes on. -/
def afterBody : Nat → State → State × Bool
  | _, s =>
    match s.flow with
    | .onward => (s, true)
    | .leaving k => ({ s with flow := if k ≤ 1 then .onward else .leaving (k - 1) }, false)
    | .repeating k =>
      if k ≤ 1 then ({ s with flow := .onward }, true) else ({ s with flow := .repeating (k - 1) }, false)
    | _ => (s, false)

/-- A loop with a condition; `code` is the exit code of its last round. -/
def loop : Nat → Bool → Bool → List Command → List Command → State → Nat → State
  | 0, _, _, _, _, s, _ => s
  | n + 1, isUntil, isTested, test, body, s, code =>
    let t := commands n true test s
    if !t.goesOn then (afterBody n t).1
    else if (t.code = 0) = isUntil then t.withCode code
    else
      let (u, goesOn) := afterBody n (commands n isTested body t)
      if goesOn then loop n isUntil isTested test body u u.code else u

/-- A loop over words. -/
def each : Nat → Bool → String → List String → List Command → State → State
  | 0, _, _, _, _, s => s
  | _, _, _, [], _, s => s
  | n + 1, isTested, name, w :: ws, body, s =>
    let s := s.assignChecked none name w
    if !s.goesOn then s
    else
      let (t, goesOn) := afterBody n (commands n isTested body s)
      if goesOn then each n isTested name ws body t else t

/-- The first arm one of whose patterns matches. -/
def choose : Nat → Bool → String → List (List Word × List Command) → State → State
  | 0, _, _, _, s => s
  | _, _, _, [], s => s.withCode 0
  | n + 1, isTested, value, (patterns, body) :: rest, s =>
    let (found, s) := anyMatches n value patterns s
    if !s.goesOn then s
    else if found then
      (if body.isEmpty then s.withCode 0 else commands n isTested body s)
    else choose n isTested value rest s

/-- Whether one of some patterns matches a text. -/
def anyMatches : Nat → String → List Word → State → Bool × State
  | 0, _, _, s => (false, s)
  | _, _, [], s => (false, s)
  | n + 1, value, w :: rest, s =>
    let (ps, s) := parts n (withHome s w) s
    if !s.goesOn then (false, s)
    else if (Glob.ofGlyphs (glyphsOf ps)).accepts value.toList then (true, s)
    else anyMatches n value rest s

end

/-- How many steps a script can take one inside another. -/
def fuel : Nat := 5000

end Run

/-- What a program printed and how it ended. -/
structure Result where
  /-- What it printed. -/
  stdout : List UInt8
  /-- What it printed as errors. -/
  stderr : List UInt8
  /-- How it ended. -/
  ending : Ending

/-- What a program finds besides its arguments. -/
structure Workplace where
  /-- The files. -/
  files : FileTree := { entries := [(["work"], .directory)], workingDirectory := ["work"] }
  /-- The variables of the environment. -/
  environment : List (String × List UInt8) := []

/-- The state in which a program is started. -/
def Workplace.state (w : Workplace) : State :=
  { values := w.environment.map fun (k, v) => (k, String.ofList (Octets.ofBytes v))
    exported := w.environment.map (·.1)
    files := w.files.withSystem }

/-- What a program does that is started with arguments, or why it cannot be started. -/
def execute (w : Workplace) (program : String) (arguments : List String) :
    Except FileError Result := do
  let state := w.state
  let name := Octets.text program
  let args := arguments.map Octets.text
  let last := match ← state.files.program? program with
    | .shell readsEscapes => Run.shellEnd Run.fuel name readsEscapes args state
    | _ => Run.program Run.fuel "" (name :: args) state
  let buffer := fun n => Octets.toBytes ((last.buffers[n]?).getD [])
  return {
    stdout := buffer 1
    stderr := buffer 2
    ending := match last.flow with | .ended e => e | _ => .exited last.code }

end CwlCompliance.Script
