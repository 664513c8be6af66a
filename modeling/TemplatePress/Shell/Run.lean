import TemplatePress.Shell.Builtin
import TemplatePress.Shell.Expansion
import TemplatePress.Shell.Script.Reader

/-!
# Running scripts

A shell runs the commands of a script one after the other. Programs are run by a `Machine.Runner`,
so that what a script does depends on the machine only through it. This file fixes:

* the status of a command made of others is that of the last one that was run;
* a program that cannot be started is complained of, with status 127 if there is none of the name
  and 126 otherwise;
* a program that a signal ended has the status 128 and the number of the signal; a program that the
  shell makes way for ends the shell as it ends itself;
* a loop that goes on for too many rounds does not end;
* the trap of a signal is run after the command during which the signal came, the trap of the end
  behind everything else;
* a command may be shown before it is run, on the stream on which the shell says things;
* a script that cannot be read further ends with status 2, after the lines before were run.
-/

namespace TemplatePress.Shell

open Text.Utf8 (bytes)

namespace Act

/-! ## 1. Programs -/

/-- What is said of a program that a signal ended; nothing of those that users send. -/
def signalWords : List (Nat × String) :=
  [(1, "Hangup"), (3, "Quit"), (4, "Illegal instruction"), (5, "Trace/breakpoint trap"),
    (6, "Aborted"), (7, "Bus error"), (8, "Floating point exception"), (9, "Killed"),
    (10, "User defined signal 1"), (11, "Segmentation fault"), (12, "User defined signal 2"),
    (14, "Alarm clock"), (15, "Terminated")]

/-- Why a program could not be started, and the status of that. -/
def launchFailure (e : IoError) : Bytes × Nat :=
  match e with
  | .os e =>
    if e = .notFound || e = .notDirectory then (bytes "not found", 127)
    else (bytes (Errno.words e.number), 126)
  | e => (bytes e.message, 126)

/-- Runs a program; a file that is no program is read as a script. -/
def start (runner : Machine.Runner) (words : Bytes × List Bytes) (s : Machine.Surroundings) :
    Except IoError Machine.Trace :=
  if words.1.isEmpty then .error (.os .permissionDenied)
  else
    match runner ⟨words.1, words.2⟩ s with
    | .error e =>
      if e = .os .execFormat then runner ⟨bytes "sh", words.1 :: words.2⟩ s else .error e
    | .ok t => .ok t

/-- Runs a program with the streams of the shell. If `replaces` is set the shell makes way for it. -/
def external (runner : Machine.Runner) (replaces : Bool) (line : Nat)
    (words : Bytes × List Bytes) : Act Unit := do
  let s ← get
  let surroundings : Machine.Surroundings :=
    { files := s.files, input := s.input, time := s.time, environment := s.environment,
      search := some (s.value Machine.searchVariable) }
  match start runner words surroundings with
  | .error e =>
    let (text, status) := launchFailure e
    complain line (words.1 ++ bytes ": " ++ text)
    setStatus (if words.1.isEmpty then 127 else status)
  | .ok t =>
    set { s with
      files := { t.files with home := s.files.home }, input := t.input, time := t.time,
      traps := if replaces then [] else s.traps }
    write 2 t.said
    write 1 t.printed
    match t.ending with
    | .exited code => setStatus code.toNat
    | .unfinished => throw .unfinished
    | .killed signal =>
      if replaces then throw (.killed signal)
      else
        match signalWords.lookup signal with
        | some text => write 2 (.ofString (text ++ "\n"))
        | none => pure ()
        setStatus (128 + signal)

/-! ## 2. Texts -/

/-- Runs a text as commands; what is wrong in it ends the shell. -/
def runText (run : Command → Act Unit) (text : Bytes) : Act Unit := do
  let script := Script.ofBytes text
  setStatus 0
  script.commands.forM run
  match script.problem with
  | none => pure ()
  | some (line, what) => do
    complain line (bytes ("Syntax error: " ++ what))
    throw (.exited 2)

/-- Runs the traps of the signals that came. The status stays as it was. -/
def runTraps (run : Command → Act Unit) : Act Unit := do
  let s ← get
  if !s.caught.isEmpty then
    set { s with caught := [] }
    s.caught.forM fun signal => runText run ((s.traps.lookup signal).getD [])
    setStatus s.status

/-- Runs an action and then the trap of the end, which keeps the status. -/
def withTrapAtEnd (run : Command → Act Unit) (act : Act Unit) : Act Unit := fun s =>
  let leave := fun (status : Nat) (s' : Session) =>
    let action := (s'.traps.lookup 0).getD []
    let last := { s' with traps := s'.traps.filter (·.1 != 0), status, speaker := [] }
    match runText run action last with
    | .ok () s'' => .error (.exited status) s''
    | .error e s'' => .error e s''
  match act s with
  | .ok () s' => leave s'.status s'
  | .error (.exited status) s' => leave status s'
  | .error (.returned status) s' => leave status s'
  | .error (.left _ _) s' => leave s'.status s'
  | .error e s' => .error e s'

/-- Runs a file as commands. -/
def source (run : Command → Act Unit) (line : Nat) : List Bytes → Act Unit
  | [] => do
    complain line (bytes "filename argument required")
    throw (.exited 2)
  | file :: _ => fun s =>
    let act : Act Unit :=
      if !file.contains Path.separator then do
        complain line (file ++ bytes ": not found")
        throw (.exited 2)
      else
        match contentOf s.files file with
        | .ok text => speaking file (runText run text)
        | .error e => do
          complain line (bytes "cannot open " ++ file ++ bytes ": " ++ reason "No such file" e)
          throw (.exited 2)
    match act s with
    | .error (.returned status) s' => .ok () { s' with status }
    | result => result

/-! ## 3. Simple commands -/

/-- Gives variables back what they were. -/
def restoreLocals (locals : List (String × Option Bytes)) (env : Environment) : Environment :=
  locals.foldl (fun env l =>
    match l.2 with
    | some value => env.set l.1 value
    | none => env.unset l.1) env

/-- Runs a command of the script's own with arguments. -/
def callDefined (run : Command → Act Unit) (body : Command) (arguments : List Bytes) : Act Unit := do
  let before ← get
  let act : Act Unit := fun s =>
    match run body { s with arguments, loops := 0, locals := some [] } with
    | .error (.returned status) s' => .ok () { s' with status }
    | result => result
  andAfter act fun s =>
    { s with
      arguments := before.arguments, loops := before.loops, locals := before.locals,
      bindings := restoreLocals (s.locals.getD []) s.bindings }

/-- Whether a word holds a command. -/
def holdsCommand (w : Word) : Bool :=
  w.any fun
    | .printed _ _ => true
    | _ => false

/-- Carries out a command of the shell. -/
def callBuiltin (b : Builtin) (line : Nat) (name : Bytes) (arguments : List Bytes) : Act Unit := do
  let status ← speaking name (b.run line arguments)
  setStatus status
  if b.endsShell && status != 0 then Act.exit status

/-- Makes way for a program, or changes the streams for all that follows. -/
def replaceShell (runner : Machine.Runner) (line : Nat) : List Bytes → Act Unit
  | [] => setStatus 0
  | program :: arguments => do
    speaking (bytes "exec") (external runner true line (program, arguments))
    Act.exit (← get).status

/-- Gives variables back the values that they had before a command that they were set for. -/
def restore (before : Session) (names : List String) (s : Session) : Session :=
  { s with
    exported := before.exported.filter names.contains ++ s.exported.filter (! names.contains ·),
    bindings := names.foldl (fun env name =>
      match before.bindings.get? name with
      | some value => env.set name value
      | none => env.unset name) s.bindings }

/-- The variable that stands before commands that are shown. -/
def traceVariable : String := "PS4"

/-- The commands of the shell that run texts. -/
def textCommands : List Bytes := [bytes "eval", bytes "."]

/-- Carries out the words of a command: as one of the shell whose failure ends the shell, one of the
    script's own, another one of the shell, or a program. -/
def call (runner : Machine.Runner) (run : Command → Act Unit) (line : Nat) (name : Bytes)
    (arguments : List Bytes) : Act Unit := do
  let s ← get
  let builtin := Builtin.find? name
  let defined :=
    if builtin.any (·.endsShell) then none
    else s.definitions.find? fun d => bytes d.1 = name
  if name = bytes "eval" then
    speaking name (runText run (List.intercalate [0x20] arguments))
  else if name = bytes "." then speaking name (source run line arguments)
  else
    match defined, builtin with
    | some d, _ => callDefined run d.2 arguments
    | none, some b => callBuiltin b line name arguments
    | none, none => external runner false line (name, arguments)

/-- Shows a command that is about to be run, if commands are shown. -/
def trace (sink : Sink) (assigned : List (String × Bytes)) (words : List Bytes) : Act Unit := do
  let s ← get
  if s.isTraced then
    let shown := assigned.map (fun a => bytes (a.1 ++ "=") ++ a.2) ++ words
    let mark := (s.bindings.get? traceVariable).getD (bytes "+ ")
    writeTo sink (.ofBytes (mark ++ List.intercalate [0x20] shown ++ [0x0A]))

/-- A simple command. The words are made up first, then the streams are led, then the variables are set.
    Variables that are set for a command are seen by programs and given back behind it, but neither
    for a command of the shell whose failure would end the shell. -/
def simple (runner : Machine.Runner) (run : Command → Act Unit) (line : Nat)
    (assignments : List (String × Word)) (words : List Word) (redirections : List Redirection) :
    Act Unit := do
  modify fun s => { s with line }
  let saying := (← get).sink 2
  match ← expandWords run words with
  | [] =>
    let hasCommand := assignments.any fun a => holdsCommand a.2
    if !(words.any holdsCommand) then setStatus 0
    keepingStreams redirections do
      if ← redirectAll run line redirections then
        trace saying (← assignAll run assignments) []
        if !hasCommand && !(words.any holdsCommand) then setStatus 0
      else setStatus 2
  | name :: arguments =>
    if name = bytes "exec" then
      if ← redirectAll run line redirections then
        trace saying [] (name :: arguments)
        replaceShell runner line arguments
      else Act.exit 2
    else
      let before ← get
      let names := assignments.map Prod.fst
      let isSpecial := textCommands.contains name || (Builtin.find? name).any (·.endsShell)
      keepingStreams redirections do
        if ← redirectAll run line redirections then
          trace saying (← assignAll run assignments) (name :: arguments)
          if !isSpecial then modify fun s => names.foldl Session.expose s
          call runner run line name arguments
        else if isSpecial then Act.exit 2
        else setStatus 2
      if !isSpecial then modify (restore before names)

/-! ## 4. Loops -/

/-- How a round of a loop ended. -/
inductive Round where
  | whole
  /-- The next round was asked for. -/
  | again
  /-- The loop was left. -/
  | last
  deriving DecidableEq

/-- Runs a part of a round. -/
def inRound (act : Act Unit) : Act Round := fun s =>
  match act s with
  | .ok () s' => .ok .whole s'
  | .error (.left loops again) s' =>
    if 1 < loops then .error (.left (loops - 1) again) s'
    else .ok (if again then .again else .last) s'
  | .error e s' => .error e s'

/-- Runs an action within one more loop. -/
def withinLoop (act : Act Unit) : Act Unit := do
  let loops := (← get).loops
  modify fun s => { s with loops := loops + 1 }
  andAfter act fun s => { s with loops }

/-- Runs a body once for each word. -/
def forEach (body : Act Unit) (name : String) : List Bytes → Act Unit
  | [] => pure ()
  | w :: rest => do
    give name w
    if (← inRound body) ≠ .last then forEach body name rest

/-- The most rounds of a loop that ends. -/
def roundLimit : Nat := 10000

/-- Runs a body as long as a test answers as wanted. The status is that of the last round. -/
def repeatWhile (untilWell : Bool) (test body : Act Unit) : (rounds : Nat) → (status : Nat) → Act Unit
  | 0, _ => throw .unfinished
  | rounds + 1, status => do
    match ← inRound test with
    | .last => pure ()
    | .again => repeatWhile untilWell test body rounds 0
    | .whole =>
      if ((← get).status = 0) = untilWell then setStatus status
      else if (← inRound body) ≠ .last then
        repeatWhile untilWell test body rounds (← get).status

/-! ## 5. Commands -/

/-- Whether one of some patterns accepts a word. -/
def someAccepts (run : Command → Act Unit) (bs : Bytes) : List Word → Act Bool
  | [] => return false
  | w :: rest => do
    if (← expandPattern run w).accepts bs then return true
    else someAccepts run bs rest

/-- Runs the first arm that accepts a word. -/
def choose (run : Command → Act Unit) (bs : Bytes) : List (List Word × Command) → Act Unit
  | [] => setStatus 0
  | (ps, body) :: rest => do
    if ← someAccepts run bs ps then run body else choose run bs rest

/-- Lets the second command read what the first prints. -/
def pipe (first second : Act Unit) : Act Unit := do
  let flow ← capture first
  let input := (← get).input
  modify fun s => { s with input := flow }
  subshell second
  modify fun s => { s with input }

/-- Runs a command whose nesting is below `depth`. If `tested` is set its failure is an answer, and
    does not end a strict shell. -/
def run (runner : Machine.Runner) : (depth : Nat) → (tested : Bool) → Command → Act Unit
  | 0, _, _ => Act.exit 2
  | depth + 1, tested, c =>
    let inside := run runner depth tested
    let ask := run runner depth true
    let free := run runner depth false
    let check : Act Unit := if tested then pure () else checkStatus
    match c with
    | .nothing => setStatus 0
    | .simple line assignments words redirections => do
      simple runner free line assignments words redirections
      runTraps free
      check
    | .both a b => do
      inside a
      inside b
    | .onSuccess a b => do
      ask a
      if (← get).status = 0 then inside b
    | .onFailure a b => do
      ask a
      if (← get).status ≠ 0 then inside b
    | .pipe a b => do
      pipe (free a) (free b)
      check
    | .negated c => do
      ask c
      setStatus (if (← get).status = 0 then 1 else 0)
    | .redirected line c redirections =>
      keepingStreams redirections do
        if ← redirectAll free line redirections then inside c else setStatus 2
    | .inner c => do
      subshell (inside c)
      check
    | .branch test yes no => do
      ask test
      inside (if (← get).status = 0 then yes else no)
    | .forEach name words body => do
      let ws ← expandWords free words
      setStatus 0
      withinLoop (forEach (inside body) name ws)
    | .repeated untilWell test body =>
      withinLoop (repeatWhile untilWell (ask test) (inside body) roundLimit 0)
    | .define name body => do
      modify fun s => { s with
        definitions := (name, body) :: s.definitions.filter (·.1 != name) }
      setStatus 0
    | .choose w arms => do
      choose inside (← expandWhole free w) arms

/-- Says what is wrong behind the lines of a script. -/
def finish : Option (Nat × String) → Act Unit
  | none => pure ()
  | some (line, text) => do
    complain line (bytes ("Syntax error: " ++ text))
    setStatus 2

/-- Runs lines. -/
def runLines (runner : Machine.Runner) (depth : Nat) : List Command → Act Unit
  | [] => pure ()
  | c :: rest => do
    if (← get).isIdle then return
    run runner depth false c
    runLines runner depth rest

end Act

/-- How a shell was called: its name for itself, what it runs, and the arguments of that. -/
structure Call where
  name : Bytes
  script : Bytes
  arguments : List Bytes
  /-- What the options of the call switch. -/
  switching : Builtin.Switching := {}

/-- The variables that a shell begins with: those of its surroundings whose names can be written in a
    script, but separators of its own, and the directories where programs are searched for. -/
def firstBindings (environment : Environment) : Environment :=
  let readable : Environment := ⟨environment.bindings.filter fun b => Reading.isName b.1⟩
  let named := readable.set Session.separatorVariable Session.usualSeparators
  if (named.get? Machine.searchVariable).isSome then named
  else named.set Machine.searchVariable Machine.usualSearch

/-- Runs a script from its beginning to its end. -/
def runScript (runner : Machine.Runner) (call : Call) (s : Machine.Surroundings) :
    Machine.Trace :=
  let bindings := firstBindings s.environment
  let session : Session := call.switching.apply
    { files := s.files, input := s.input, time := s.time, name := call.name,
      arguments := call.arguments, bindings,
      exported := (bindings.bindings.map Prod.fst).filter (· != Session.separatorVariable) }
  let depth := 8 * (call.script.length + 2)
  let ended := fun (session : Session) (ending : Machine.Ending) =>
    ({ ending, files := session.files, input := session.input, time := session.time,
       printed := session.pipes.getD 0 .nothing, said := session.pipes.getD 1 .nothing } :
      Machine.Trace)
  let script := Script.ofBytes call.script
  let act : Act Unit := Act.withTrapAtEnd (Act.run runner depth false) do
    Act.runLines runner depth script.commands
    Act.finish script.problem
  match act session with
  | .ok () session => ended session (.exited (UInt8.ofNat session.status))
  | .error (.exited status) session => ended session (.exited (UInt8.ofNat status))
  | .error (.killed signal) session => ended session (.killed signal)
  | .error .unfinished session => ended session .unfinished
  | .error (.returned status) session => ended session (.exited (UInt8.ofNat status))
  | .error (.left _ _) session => ended session (.exited 0)

/-- Runs a shell with its arguments: a script behind `-c`, or the name of a file with one. -/
def shell (runner : Machine.Runner) (name : Bytes) (arguments : List Bytes)
    (s : Machine.Surroundings) : Machine.Trace :=
  let refuse := fun (text : Bytes) =>
    { s.ended (.exited 2) with said := .ofBytes (name ++ bytes ": 0: " ++ text ++ [0x0A]) }
  let known := 0x63 :: Builtin.switches.map Prod.fst
  match Builtin.readSwitches known arguments.length arguments with
  | .error e => refuse (bytes "Illegal option -" ++ e)
  | .ok w =>
    let run := fun (name script : Bytes) (arguments : List Bytes) =>
      runScript runner ⟨name, script, arguments, w⟩
    match w.switched.contains (true, 0x63), w.words with
    | true, script :: rest => run (rest.headD name) script rest.tail s
    | true, [] => refuse (bytes "-c requires an argument")
    | false, file :: rest =>
      match Act.contentOf s.files file with
      | .ok script => run file script rest s
      | .error e => refuse (bytes "cannot open " ++ file ++ bytes ": " ++ Act.reason "No such file" e)
    | false, [] => run name s.input.start [] { s with input := .nothing }

end TemplatePress.Shell
