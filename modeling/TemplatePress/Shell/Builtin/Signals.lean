import TemplatePress.Shell.Builtin.Basic

/-!
# Commands about signals

Sending signals, and what is run when they come. The only process that there is is the shell itself.
-/

namespace TemplatePress.Shell.Builtin

open Text.Utf8 (bytes)

/-- The signals that a process leaves alone. -/
def harmless : List Nat := [0, 17, 18, 23, 28]

/-- The signals that stop a process without ending it. -/
def pausing : List Nat := [19, 20, 21, 22]

/-- The signal of a number or a name. -/
def signal? (name : Bytes) : Option Nat :=
  match natural? name with
  | some n => if n ≤ 64 then some n else none
  | none =>
    let upper := String.ofList ((Text.Latin.chars name).map Char.toUpper)
    if upper = "EXIT" then some 0 else (signalNames.find? (·.2 = upper)).map Prod.fst

/-- The signals that no trap catches. -/
def relentless : List Nat := [9, 19]

/-- What a signal does to the shell. A trap catches it; a trap of nothing ignores it. -/
def receive (signal : Nat) : Act Unit := do
  let s ← get
  let trap := if relentless.contains signal then none else s.traps.lookup signal
  match trap with
  | some action => if !action.isEmpty then set { s with caught := s.caught ++ [signal] }
  | none =>
    if harmless.contains signal then pure ()
    else if pausing.contains signal then throw .unfinished
    else throw (.killed signal)

/-- Sends a signal to processes. The only process there is is the shell itself. -/
def send (line : Nat) (signal : Nat) : List Bytes → Act Nat
  | [] => return 0
  | target :: rest => do
    if natural? target = some Session.processNumber then
      receive signal
      send line signal rest
    else if (natural? target).isNone then wrong line (bytes "Illegal number: " ++ target) 2
    else
      Act.complain line (bytes "No such process\n")
      let _ ← send line signal rest
      return 1

/-- Sends a signal. -/
def kill : Builtin where
  run line arguments := do
    let usage := bytes
      "Usage: kill [-s sigspec | -signum | -sigspec] [pid | job]... or\nkill -l [exitstatus]"
    match arguments with
    | [] => wrong line usage 2
    | [0x2D, 0x73] :: name :: targets =>
      match signal? name with
      | some n => send line n targets
      | none => wrong line (bytes "invalid signal number or name: " ++ name) 2
    | (0x2D :: b :: more) :: targets =>
      match signal? (b :: more) with
      | some n => send line n targets
      | none => unknownOption line [b]
    | targets => send line 15 targets

/-- Sets traps, up to the first signal that is unknown. -/
def setTraps (action : Option Bytes) : List Bytes → Act Nat
  | [] => return 0
  | name :: rest => do
    match signal? name with
    | none =>
      Act.write 2 (.ofBytes (bytes "trap: " ++ name ++ bytes ": bad trap\n"))
      return 1
    | some n =>
      modify fun s =>
        let others := s.traps.filter (·.1 != n)
        { s with traps := action.elim others fun a => (n, a) :: others }
      setTraps action rest

/-- Sets what is run when signals come, or at the end. A hyphen, or no action, takes it away. -/
def trap : Builtin where
  run _ arguments :=
    match arguments with
    | [] => return 0
    | [name] => setTraps none [name]
    | action :: names =>
      if (natural? action).isSome then setTraps none arguments
      else if action = [0x2D] then setTraps none names
      else setTraps (some action) names

end TemplatePress.Shell.Builtin
