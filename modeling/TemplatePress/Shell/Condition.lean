import TemplatePress.FileSystem.Lookup
import TemplatePress.Text.Latin

/-!
# Conditions

What `test` and `[` decide: questions about one text, about two, about a path, and their negation,
conjunction and disjunction. How many arguments there are says how they are read, so that an operator
may also stand as a text.
-/

namespace TemplatePress.Shell.Condition

open Text.Utf8 (bytes)

/-- A question about one argument. -/
inductive UnaryTest where
  | isEmpty
  | isNotEmpty
  | pathExists
  | isFile
  | isDirectory
  | isLink
  | isExecutable
  | hasContent
  | isTerminal
  deriving DecidableEq

/-- A question about two arguments. -/
inductive BinaryTest where
  | equal
  | different
  /-- About numbers: which of the three orders answer with yes. -/
  | order (lt eq gt : Bool)
  deriving DecidableEq

def unaryTests : List (String × UnaryTest) :=
  [("-z", .isEmpty), ("-n", .isNotEmpty), ("-e", .pathExists), ("-f", .isFile),
    ("-d", .isDirectory), ("-L", .isLink), ("-h", .isLink), ("-x", .isExecutable),
    ("-r", .pathExists), ("-w", .pathExists), ("-s", .hasContent), ("-t", .isTerminal)]

def binaryTests : List (String × BinaryTest) :=
  [("=", .equal), ("!=", .different), ("-eq", .order false true false),
    ("-ne", .order true false true), ("-lt", .order true false false),
    ("-le", .order true true false), ("-gt", .order false false true),
    ("-ge", .order false true true)]

/-- The test that an argument names. -/
def find? {α : Type} (tests : List (String × α)) (name : Bytes) : Option α :=
  (tests.find? fun t => bytes t.1 = name).map Prod.snd

/-- Whether an entry holds anything. -/
def holdsSomething : Entry → Bool
  | .file content _ => !content.isEmpty
  | _ => true

/-- Whether an entry can be run or entered. -/
def canBeRun : Entry → Bool
  | .directory => true
  | .file _ executable => executable
  | .link _ => false

/-- Answers a question about one argument. -/
def UnaryTest.holds (fs : FileSystem) (t : UnaryTest) (argument : Bytes) : Bool :=
  let about := fun (p : Entry → Bool) => match fs.stat? ⟨argument⟩ with
    | .ok (_, e) => p e
    | .error _ => false
  match t with
  | .isEmpty => argument.isEmpty
  | .isNotEmpty => !argument.isEmpty
  | .pathExists => about fun _ => true
  | .isFile => about (! ·.isDirectory)
  | .isDirectory => about (·.isDirectory)
  | .isLink => match fs.lstat? ⟨argument⟩ with
    | .ok (_, .link _) => true
    | _ => false
  | .isExecutable => about canBeRun
  | .hasContent => about holdsSomething
  | .isTerminal => false

/-- A whole number, with or without a sign. -/
def integer? (argument : Bytes) : Option Int :=
  match Text.Latin.chars argument with
  | '-' :: ds => ((String.ofList ds).toNat?).map fun n => -n
  | ds => ((String.ofList ds).toNat?).map fun n => n

/-- The number of an argument, or a complaint. -/
def number (argument : Bytes) : Except Bytes Int :=
  match integer? argument with
  | some n => .ok n
  | none => .error (bytes "Illegal number: " ++ argument)

/-- Answers a question about two arguments. -/
def BinaryTest.holds (t : BinaryTest) (a b : Bytes) : Except Bytes Bool :=
  match t with
  | .equal => .ok (a = b)
  | .different => .ok (a ≠ b)
  | .order lt eq gt =>
    match number a, number b with
    | .ok m, .ok n => .ok (if m < n then lt else if m = n then eq else gt)
    | .error e, _ => .error e
    | _, .error e => .error e

/-- The arguments before and behind a word that is not the first. -/
def splitAt? (word : Bytes) : (before : List Bytes) → List Bytes →
    Option (List Bytes × List Bytes)
  | _, [] => none
  | before, a :: rest =>
    if a = word && !before.isEmpty then some (before.reverse, rest)
    else splitAt? word (a :: before) rest

/-- Decides a condition of at most `size` arguments; an error says what is wrong with it. -/
def holds (fs : FileSystem) : (size : Nat) → List Bytes → Except Bytes Bool
  | _, [] => .ok false
  | _, [a] => .ok (!a.isEmpty)
  | _, [op, a] =>
    if op = bytes "!" then .ok a.isEmpty
    else
      match find? unaryTests op with
      | some t => .ok (t.holds fs a)
      | none =>
        if (find? binaryTests a).isSome then .error (a ++ bytes ": argument expected")
        else .error (op ++ bytes ": unexpected operator")
  | 0, a :: _ => .error (a ++ bytes ": unexpected operator")
  | size + 1, a :: op :: b :: rest =>
    match find? binaryTests op, rest with
    | some t, [] => t.holds a b
    | _, _ =>
      match splitAt? (bytes "-o") [] (a :: op :: b :: rest) with
      | some (l, r) => do return (← holds fs size l) || (← holds fs size r)
      | none =>
        match splitAt? (bytes "-a") [] (a :: op :: b :: rest) with
        | some (l, r) => do return (← holds fs size l) && (← holds fs size r)
        | none =>
          if a = bytes "!" then (holds fs size (op :: b :: rest)).map (! ·)
          else if a = bytes "(" && (b :: rest).getLast? = some (bytes ")") then
            holds fs size (op :: (b :: rest).dropLast)
          else .error (a ++ bytes ": unexpected operator")

end TemplatePress.Shell.Condition
