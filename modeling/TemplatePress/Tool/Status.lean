import TemplatePress.Text.Quoted

/-!
# How long tools run and how they end

* `Duration.display` shows a span of time in its largest unit, with as many decimals as it needs;
* `WaitStatus.display` shows the word in which the system reports the end of a process: an exit
  code, a signal with or without a memory dump, a stop, a continuation, or none of these.
-/

namespace TemplatePress

/-- A span of time in nanoseconds. -/
structure Duration where
  nanoseconds : Nat
  deriving DecidableEq

namespace Duration

def ofSeconds (n : Nat) : Duration := ⟨n * 1000000000⟩

def ofMilliseconds (n : Nat) : Duration := ⟨n * 1000000⟩

/-- The digits of `n` as `width` decimals, without the zeros at the end. -/
def decimals (width n : Nat) : List Char :=
  let digits := Nat.toDigits 10 n
  let padded := List.replicate (width - digits.length) '0' ++ digits
  (padded.reverse.dropWhile (· = '0')).reverse

/-- A number of units of `10 ^ width` parts, with decimals if it is not whole. -/
def inUnits (width n : Nat) : String :=
  let unit := Nat.pow 10 width
  let fraction := if n % unit = 0 then [] else '.' :: decimals width (n % unit)
  toString (n / unit) ++ String.ofList fraction

/-- A span of time in the largest unit of which it holds at least one. -/
def display (d : Duration) : String :=
  if d.nanoseconds ≥ 1000000000 then inUnits 9 d.nanoseconds ++ "s"
  else if d.nanoseconds ≥ 1000000 then inUnits 6 d.nanoseconds ++ "ms"
  else if d.nanoseconds ≥ 1000 then inUnits 3 d.nanoseconds ++ "µs"
  else toString d.nanoseconds ++ "ns"

end Duration

/-! ## Signals -/

/-- The signals that have a name. -/
def signalNames : List (Nat × String) := [
  (1, "HUP"), (2, "INT"), (3, "QUIT"), (4, "ILL"), (5, "TRAP"), (6, "ABRT"), (7, "BUS"),
  (8, "FPE"), (9, "KILL"), (10, "USR1"), (11, "SEGV"), (12, "USR2"), (13, "PIPE"), (14, "ALRM"),
  (15, "TERM"), (16, "STKFLT"), (17, "CHLD"), (18, "CONT"), (19, "STOP"), (20, "TSTP"),
  (21, "TTIN"), (22, "TTOU"), (23, "URG"), (24, "XCPU"), (25, "XFSZ"), (26, "VTALRM"),
  (27, "PROF"), (28, "WINCH"), (29, "IO"), (30, "PWR"), (31, "SYS")]

/-- A signal as it is shown: its number, and its name if it has one. -/
def showSignal (n : Nat) : String :=
  toString n ++
    match signalNames.lookup n with
    | some name => " (SIG" ++ name ++ ")"
    | none => ""

/-- The word in which the system reports how a process ended. -/
structure WaitStatus where
  raw : UInt32
  deriving DecidableEq

namespace WaitStatus

/-- A process that returned a code. -/
def exited (code : UInt8) : WaitStatus := ⟨code.toUInt32 * 256⟩

/-- A process that a signal ended. -/
def killed (signal : Nat) : WaitStatus := ⟨UInt32.ofNat (signal % 127)⟩

/-- The low seven bits: zero after an exit, the signal after a signal. -/
def low (s : WaitStatus) : Nat := s.raw.toNat % 128

/-- The second byte: an exit code or a stop signal. -/
def high (s : WaitStatus) : Nat := s.raw.toNat / 256 % 256

/-- The code with which the process returned, if it did. -/
def code? (s : WaitStatus) : Option Nat :=
  if s.low = 0 then some s.high else none

/-- Whether the process returned the code of success. -/
def isSuccess (s : WaitStatus) : Bool :=
  s.code? = some 0

/-- The word read as a signed number. -/
def signed (s : WaitStatus) : String :=
  let n := s.raw.toNat
  if n < Nat.pow 2 31 then toString n else "-" ++ toString (Nat.pow 2 32 - n)

def display (s : WaitStatus) : String :=
  match s.code? with
  | some code => "exit status: " ++ toString code
  | none =>
    if s.low < 127 then
      "signal: " ++ showSignal s.low ++
        if s.raw.toNat % 256 ≥ 128 then " (core dumped)" else ""
    else if s.raw.toNat % 256 = 127 then
      "stopped (not terminated) by signal: " ++ showSignal s.high
    else if s.raw = 0xFFFF then "continued (WIFCONTINUED)"
    else "unrecognised wait status: " ++ s.signed ++ " 0x" ++ Text.Quoted.hex s.raw.toNat

end WaitStatus

end TemplatePress
