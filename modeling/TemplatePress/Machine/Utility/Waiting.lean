import TemplatePress.Machine.Utility.Basic
import TemplatePress.Text.Latin

/-!
# Waiting

Time passes only while a program sleeps. A program that would sleep longer than the time it has does
not end.
-/

namespace TemplatePress.Machine

/-- Lets nanoseconds pass; none if there are not that many left. -/
def pass (nanoseconds : Nat) : Option Nat → Option (Option Nat)
  | none => some none
  | some left => if nanoseconds < left then some (some (left - nanoseconds)) else none

namespace Utility

open Text.Utf8 (bytes)

/-- The seconds in a unit of time. -/
def unitSeconds : List (Char × Nat) :=
  [('s', 1), ('m', 60), ('h', 3600), ('d', 86400)]

/-- The nanoseconds of a decimal number of seconds. -/
def secondsOf (cs : List Char) : Option Nat :=
  let whole := cs.takeWhile (· != '.')
  let fraction := (cs.drop (whole.length + 1)).take 9
  let digits := whole ++ fraction
  if digits.isEmpty || !(digits.all Char.isDigit) ||
    !((cs.drop (whole.length + 1)).all Char.isDigit) then none
  else
    let read := fun ds : List Char => ds.foldl (fun v d => v * 10 + (d.toNat - '0'.toNat)) 0
    some (read whole * 1000000000 + read fraction * Nat.pow 10 (9 - fraction.length))

/-- The nanoseconds of a number with or without a unit. -/
def interval? (argument : Bytes) : Option Nat :=
  let cs := Text.Latin.chars argument
  match cs.getLast?.bind fun c => unitSeconds.lookup c with
  | some seconds => (secondsOf cs.dropLast).map (· * seconds)
  | none => secondsOf cs

/-- Adds up intervals; the first argument that is none is an error. -/
def intervals : List Bytes → Except Bytes Nat
  | [] => .ok 0
  | a :: rest =>
    match interval? a with
    | some n => (intervals rest).map (n + ·)
    | none => .error a

/-- Waits. -/
def sleep : Utility := fun arguments s =>
  match arguments with
  | [] => refuses s "sleep" (bytes "missing operand")
  | _ =>
    match intervals arguments with
    | .error a =>
      refuses s "sleep" (bytes "invalid time interval " ++ Text.ShellQuoted.encode a)
    | .ok n =>
      match pass n s.time with
      | some time => { s.ended (.exited 0) with time }
      | none => s.ended .unfinished

/-- Ends well. -/
def succeed : Utility := fun _ s => s.ended (.exited 0)

/-- Ends with code one. -/
def fail : Utility := fun _ s => s.ended (.exited 1)

end Utility

end TemplatePress.Machine
