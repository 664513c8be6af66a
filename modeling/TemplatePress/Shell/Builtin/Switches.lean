import TemplatePress.Shell.Builtin.Basic

/-!
# Options of the shell

What the shell does may be switched while it runs: by letters, or by names behind the letter `o`. Words
behind the options are the new arguments of the script.
-/

namespace TemplatePress.Shell.Builtin

open Text.Utf8 (bytes)

/-- The letters of the options of a shell, with their names. -/
def switches : List (UInt8 × String) :=
  [(0x65, "errexit"), (0x66, "noglob"), (0x49, "ignoreeof"), (0x69, "interactive"),
    (0x6D, "monitor"), (0x6E, "noexec"), (0x73, "stdin"), (0x78, "xtrace"), (0x76, "verbose"),
    (0x56, "vi"), (0x45, "emacs"), (0x43, "noclobber"), (0x61, "allexport"), (0x62, "notify"),
    (0x75, "nounset")]

/-- A session with an option of the shell switched. -/
def switch (s : Session) (on : Bool) : UInt8 → Session
  | 0x65 => { s with isStrict := on }
  | 0x66 => { s with isLiteral := on }
  | 0x61 => { s with isOpen := on }
  | 0x6E => { s with isIdle := on }
  | 0x75 => { s with isExact := on }
  | 0x78 => { s with isTraced := on }
  | _ => s

/-- The options of a group of letters, and the words behind those that are names of options. The
    first unknown option is an error. -/
def readLetters (known : List UInt8) (on : Bool) : Bytes → List Bytes →
    Except Bytes (List (Bool × UInt8) × List Bytes)
  | [], words => .ok ([], words)
  | b :: letters, words =>
    if b = 0x6F then
      match words with
      | [] => readLetters known on letters []
      | name :: words =>
        match switches.find? fun o => bytes o.2 = name with
        | some o => (readLetters known on letters words).map fun (more, words) =>
            ((on, o.1) :: more, words)
        | none => .error (bytes "o " ++ name)
    else if known.contains b then
      (readLetters known on letters words).map fun (more, words) => ((on, b) :: more, words)
    else .error [b]

/-- What options switch, and the words behind them. -/
structure Switching where
  switched : List (Bool × UInt8) := []
  words : List Bytes := []
  /-- Whether the words are arguments even if there are none. -/
  isMarked : Bool := false

/-- Reads options. Each round takes a word. -/
def readSwitches (known : List UInt8) : (rounds : Nat) → List Bytes → Except Bytes Switching
  | 0, words => .ok { words }
  | rounds + 1, words =>
    match words with
    | [0x2D] :: rest => .ok { switched := [(false, 0x78)], words := rest }
    | [0x2D, 0x2D] :: rest => .ok { words := rest, isMarked := true }
    | (sign :: letters) :: rest =>
      if sign = 0x2D || sign = 0x2B then
        match readLetters known (sign = 0x2D) letters rest with
        | .error e => .error e
        | .ok (switched, rest) => (readSwitches known rounds rest).map fun more =>
            { more with switched := switched ++ more.switched }
      else .ok { words }
    | _ => .ok { words }

/-- A session with options switched. -/
def Switching.apply (w : Switching) (s : Session) : Session :=
  w.switched.foldl (fun s o => switch s o.1 o.2) s

/-- Switches options of the shell and sets its arguments. -/
def setArguments : Builtin where
  run line arguments :=
    match readSwitches (switches.map Prod.fst) arguments.length arguments with
    | .error e => unknownOption line e
    | .ok w => do
      let s := w.apply (← get)
      set (if w.isMarked || !w.words.isEmpty then { s with arguments := w.words } else s)
      return 0
  endsShell := true

end TemplatePress.Shell.Builtin
