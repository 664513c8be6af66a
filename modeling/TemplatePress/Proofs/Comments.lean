import TemplatePress.Proofs.Lookups
import TemplatePress.Proofs.Overrides

/-!
# Settings that are commented out

A settings file may hold nothing but empty lines, spaces and comments. Without a comment it is white
space and is not read as a document at all; otherwise the reader of tokens has to pass over all of
it. This file fixes:

* `IsBareLine`: a line of spaces, with a comment behind them or without one;
* `Lexer.IsGap`: a text that the reader of tokens passes over to its end, from any place on;
* `Document.root_eq_none_of_gap`: such a text has no document;
* `loadConfig_bare`: so a file of bare lines gives every setting its default.
-/

namespace TemplatePress

namespace Yaml

/-! ## 1. Bare lines -/

/-- A character of ASCII that is no control. -/
def IsPrintable (c : Char) : Prop :=
  0x20 ≤ c.toNat ∧ c.toNat ≤ 0x7E

instance : DecidablePred IsPrintable := fun c =>
  inferInstanceAs (Decidable (0x20 ≤ c.toNat ∧ c.toNat ≤ 0x7E))

/-- A line of spaces, or of spaces and a comment. -/
def IsBareLine (line : List Char) : Prop :=
  ∃ indent : Nat, line = List.replicate indent ' ' ∨
    ∃ comment : List Char, line = List.replicate indent ' ' ++ '#' :: comment ∧
      ∀ c ∈ comment, IsPrintable c

/-- Lines with line breaks between them. A last line that is empty gives the line before it a line
    break of its own. -/
def joinLines (lines : List (List Char)) : List Char :=
  ['\n'].intercalate lines

theorem joinLines_singleton (line : List Char) : joinLines [line] = line :=
  List.intercalate_singleton

theorem joinLines_cons_cons (line next : List Char) (lines : List (List Char)) :
    joinLines (line :: next :: lines) = line ++ '\n' :: joinLines (next :: lines) := by
  rw [joinLines, List.intercalate_cons_cons, List.append_assoc]
  rfl

theorem IsPrintable.not_isBreak {c : Char} (h : IsPrintable c) : isBreak c = false := by
  obtain ⟨hlow, hhigh⟩ := h
  have hne {x : Char} (hx : x.toNat < 0x20 ∨ 0x7E < x.toNat) : (c == x) = false := by
    refine beq_eq_false_iff_ne.2 ?_
    rintro rfl
    omega
  rw [isBreak, hne (.inl (by decide)), hne (.inl (by decide)), hne (.inr (by decide)),
    hne (.inr (by decide)), hne (.inr (by decide))]
  rfl

theorem IsPrintable.isReadable {c : Char} (h : IsPrintable c) : isReadable c = true := by
  have hin : (decide (0x20 ≤ c.toNat) && decide (c.toNat ≤ 0x7E)) = true :=
    Bool.and_eq_true_iff.2 ⟨decide_eq_true h.1, decide_eq_true h.2⟩
  simp only [Yaml.isReadable, hin, Bool.or_true, Bool.true_or]

theorem IsBareLine.isReadable {line : List Char} (h : IsBareLine line) :
    ∀ c ∈ line, isReadable c = true := by
  have hspaces {indent : Nat} : ∀ c ∈ List.replicate indent ' ', Yaml.isReadable c = true := by
    intro c hc
    rw [List.eq_of_mem_replicate hc]
    decide
  obtain ⟨indent, rfl | ⟨comment, rfl, hcomment⟩⟩ := h
  · exact hspaces
  · rw [List.forall_mem_append, List.forall_mem_cons]
    exact ⟨hspaces, by decide, fun c hc => (hcomment c hc).isReadable⟩

theorem isReadable_of_mem_joinLines {lines : List (List Char)}
    (h : ∀ line ∈ lines, IsBareLine line) : ∀ c ∈ joinLines lines, isReadable c = true := by
  induction lines with
  | nil => exact List.forall_mem_nil _
  | cons line lines ih =>
    obtain ⟨hline, hlines⟩ := List.forall_mem_cons.1 h
    cases lines with
    | nil =>
      rw [joinLines_singleton]
      exact hline.isReadable
    | cons next lines =>
      rw [joinLines_cons_cons, List.forall_mem_append, List.forall_mem_cons]
      exact ⟨hline.isReadable, by decide, ih hlines⟩

theorem Input.firstUnreadable_eq_none {cs : List Char} (h : ∀ c ∈ cs, isReadable c = true)
    (index offset room start : Nat) : firstUnreadable index offset room start cs = none := by
  induction cs generalizing index offset room start with
  | nil => rfl
  | cons c cs ih =>
    obtain ⟨hc, hcs⟩ := List.forall_mem_cons.1 h
    unfold firstUnreadable
    simp only [hc, if_true, ih hcs]

theorem Input.ofText_eq {text : String} (h : ∀ c ∈ text.toList, isReadable c = true) :
    Input.ofText text = { rest := text.toList } := by
  simp only [Input.ofText, firstUnreadable_eq_none h]

namespace Lexer

/-! ## 2. Gaps -/

/-- Outside brackets all of the characters are passed over, when they are read in a comment or behind
    one, wherever that is. -/
def IsGap (comment : Bool) (cs : List Char) : Prop :=
  ∀ (keyAllowed : Bool) (mark : Mark), ∃ mark' keyAllowed',
    gap false comment keyAllowed cs mark = ([], mark', keyAllowed')

theorem gap_cons {comment keyAllowed : Bool} {c : Char} {cs : List Char} {mark : Mark}
    (hc : c ≠ '\r') : gap false comment keyAllowed (c :: cs) mark =
      if isBreak c then gap false false true cs (mark.newLine c.utf8Size)
      else if comment then gap false true keyAllowed cs (mark.behind c)
      else if c == '\ufeff' && mark.column == 0 then
        gap false false keyAllowed cs (mark.behind c)
      else if c == ' ' || (c == '\t' && !keyAllowed) then
        gap false false keyAllowed cs (mark.advance 1)
      else if c == '#' then gap false true keyAllowed cs (mark.advance 1)
      else (c :: cs, mark, keyAllowed) := by
  rw [gap]
  · simp only [Bool.not_false, Bool.or_true, Bool.false_or]
  · rintro rest ⟨⟩
    exact absurd rfl hc

theorem IsGap.nil (comment : Bool) : IsGap comment [] := by
  intro keyAllowed mark
  exact ⟨mark, keyAllowed, by rw [gap]⟩

theorem IsGap.newline {comment : Bool} {cs : List Char} (h : IsGap false cs) :
    IsGap comment ('\n' :: cs) := by
  intro keyAllowed mark
  rw [gap_cons (by decide), if_pos (by decide)]
  exact h _ _

theorem not_byteOrderMark {c : Char} (hc : c ≠ '\ufeff') (b : Bool) :
    ¬ (c == '\ufeff' && b) = true :=
  fun h => hc (eq_of_beq (Bool.and_eq_true_iff.1 h).1)

theorem IsGap.space {cs : List Char} (h : IsGap false cs) : IsGap false (' ' :: cs) := by
  intro keyAllowed mark
  rw [gap_cons (by decide), if_neg (by decide), if_neg (by decide),
    if_neg (not_byteOrderMark (by decide) _), if_pos (by cases keyAllowed <;> decide)]
  exact h _ _

theorem IsGap.hash {cs : List Char} (h : IsGap true cs) : IsGap false ('#' :: cs) := by
  intro keyAllowed mark
  rw [gap_cons (by decide), if_neg (by decide), if_neg (by decide),
    if_neg (not_byteOrderMark (by decide) _), if_neg (by cases keyAllowed <;> decide),
    if_pos (by decide)]
  exact h _ _

theorem IsGap.printable {c : Char} {cs : List Char} (hc : IsPrintable c) (h : IsGap true cs) :
    IsGap true (c :: cs) := by
  intro keyAllowed mark
  have hbreak : ¬ isBreak c = true := by
    rw [hc.not_isBreak]
    exact Bool.false_ne_true
  have hne : c ≠ '\r' := fun e => hbreak (e ▸ by decide)
  rw [gap_cons hne, if_neg hbreak, if_pos rfl]
  exact h _ _

theorem IsGap.spaces {cs : List Char} (h : IsGap false cs) (indent : Nat) :
    IsGap false (List.replicate indent ' ' ++ cs) := by
  induction indent with
  | zero => exact h
  | succ indent ih => exact ih.space

theorem IsGap.comment {comment cs : List Char} (hcomment : ∀ c ∈ comment, IsPrintable c)
    (h : IsGap true cs) : IsGap true (comment ++ cs) := by
  induction comment with
  | nil => exact h
  | cons c comment ih =>
    obtain ⟨hc, hcomment⟩ := List.forall_mem_cons.1 hcomment
    exact (ih hcomment).printable hc

/-- A bare line ends in a comment or outside one. What follows it has to be passed over in both. -/
theorem IsGap.line {line cs : List Char} (hline : IsBareLine line)
    (h : ∀ comment, IsGap comment cs) : IsGap false (line ++ cs) := by
  obtain ⟨indent, rfl | ⟨comment, rfl, hcomment⟩⟩ := hline
  · exact (h false).spaces indent
  · rw [List.append_assoc, List.cons_append]
    exact ((h true).comment hcomment).hash.spaces indent

/-- **Bare lines are passed over to their end**, by induction on the lines: the break behind a line
    ends its comment. -/
theorem isGap_joinLines {lines : List (List Char)} (h : ∀ line ∈ lines, IsBareLine line) :
    IsGap false (joinLines lines) := by
  induction lines with
  | nil => exact .nil false
  | cons line lines ih =>
    obtain ⟨hline, hlines⟩ := List.forall_mem_cons.1 h
    cases lines with
    | nil =>
      rw [joinLines_singleton, ← List.append_nil line]
      exact .line hline .nil
    | cons next lines =>
      rw [joinLines_cons_cons]
      exact .line hline fun comment => (ih hlines).newline

/-! ## 3. Tokens of a gap -/

/-- The reader of a text behind the token of its beginning. -/
def begun (size : Nat) (cs : List Char) (mark : Mark) (keyAllowed : Bool) : Lexer :=
  { size, input := { rest := cs, mark }, started := true, taken := 1, keyAllowed }

/-- The reader of a text at its end, whose token waits. -/
def atEnd (size : Nat) (mark : Mark) : Lexer :=
  { size, input := { rest := [], mark }, started := true, ended := true, taken := 1,
    queue := [⟨.streamEnd, mark, mark⟩], keyAllowed := false }

theorem skipGap_begun (size : Nat) {cs : List Char} (h : IsGap false cs) : ∃ mark keyAllowed,
    skipGap (begun size cs {} true) = .ok () (begun size [] mark keyAllowed) := by
  obtain ⟨mark, keyAllowed, hgap⟩ := h true {}
  refine ⟨mark, keyAllowed, bind_eq_ok.2 ⟨_, _, rfl, bind_eq_ok.2 ⟨(), _, rfl, ?_⟩⟩⟩
  have hflow : (begun size cs {} true).inFlow = false := rfl
  simp only [begun] at hflow ⊢
  rw [hflow, hgap]
  rfl

theorem readStreamEnd_begun (size : Nat) (mark : Mark) (keyAllowed : Bool) :
    ∃ m, readStreamEnd (begun size [] mark keyAllowed) = .ok () (atEnd size m) := by
  by_cases hcolumn : (mark.column == 0) = true
  · exact ⟨mark, bind_eq_ok.2 ⟨(), _, congrArg (EStateM.Result.ok ()) (if_pos hcolumn), rfl⟩⟩
  · exact ⟨mark.newLine 0,
      bind_eq_ok.2 ⟨(), _, congrArg (EStateM.Result.ok ()) (if_neg hcolumn), rfl⟩⟩

/-- Behind the gap comes the end. No block is open and no key is possible there, so that nothing but
    its token is read. -/
theorem readNext_begun (size : Nat) {cs : List Char} (h : IsGap false cs) :
    ∃ m, readNext (begun size cs {} true) = .ok () (atEnd size m) := by
  obtain ⟨mark, keyAllowed, hskip⟩ := skipGap_begun size h
  obtain ⟨m, hend⟩ := readStreamEnd_begun size mark keyAllowed
  refine ⟨m, bind_eq_ok.2 ⟨(), _, rfl, bind_eq_ok.2 ⟨_, _, rfl, ?_⟩⟩⟩
  exact bind_eq_ok.2 ⟨(), _, hskip, hend⟩

theorem peek_begun (size : Nat) {cs : List Char} (h : IsGap false cs) :
    ∃ m, peek (begun size cs {} true) = .ok ⟨.streamEnd, m, m⟩ (atEnd size m) := by
  obtain ⟨m, hnext⟩ := readNext_begun size h
  have hfill : fill (size + 3) (begun size cs {} true) = .ok () (atEnd size m) :=
    bind_eq_ok.2 ⟨_, _, rfl, bind_eq_ok.2 ⟨(), _, hnext, rfl⟩⟩
  exact ⟨m, bind_eq_ok.2 ⟨_, _, rfl, bind_eq_ok.2 ⟨(), _, hfill, rfl⟩⟩⟩

end Lexer

/-! ## 4. Texts without a document -/

theorem Grammar.beginDocument_of_gap (size : Nat) {cs : List Char} (h : Lexer.IsGap false cs) :
    ∃ m, beginDocument { lexer := { size, input := { rest := cs } } } =
      .ok (some m) { lexer := Lexer.atEnd size m } := by
  obtain ⟨m, hpeek⟩ := Lexer.peek_begun size h
  have hpeek' : peek { lexer := Lexer.begun size cs {} true } =
      .ok ⟨.streamEnd, m, m⟩ { lexer := Lexer.atEnd size m } := by
    rw [peek, lex, hpeek]
  have htake : takePeek { lexer := { Lexer.begun size cs {} true with
      taken := 0
      queue := [⟨.streamStart, {}, {}⟩] } } =
        .ok ⟨.streamEnd, m, m⟩ { lexer := Lexer.atEnd size m } :=
    bind_eq_ok.2 ⟨(), _, rfl, hpeek'⟩
  exact ⟨m, bind_eq_ok.2 ⟨_, _, rfl, bind_eq_ok.2 ⟨_, _, htake, rfl⟩⟩⟩

/-- **A text that is passed over has no document.** -/
theorem Document.root_eq_none_of_gap {text : String}
    (hreadable : ∀ c ∈ text.toList, isReadable c = true)
    (hgap : Lexer.IsGap false text.toList) : (Document.ofText text).root = none := by
  obtain ⟨m, hbegin⟩ := Grammar.beginDocument_of_gap text.toList.length hgap
  have hlexer : Lexer.ofText text =
      { size := text.toList.length, input := { rest := text.toList } } := by
    simp only [Lexer.ofText, Input.ofText_eq hreadable]
  unfold Document.ofText
  rw [hlexer, hbegin]

end Yaml

/-! ## 5. Settings of bare lines -/

/-- A text that is white space is not looked at as a document; one with a comment has none. -/
theorem Config.ofText_joinLines {lines : List (List Char)}
    (h : ∀ line ∈ lines, Yaml.IsBareLine line) :
    Config.ofText (String.ofList (Yaml.joinLines lines)) = .ok {} := by
  unfold Config.ofText
  split
  · rfl
  · have hlist : (String.ofList (Yaml.joinLines lines)).toList = Yaml.joinLines lines :=
      String.toList_ofList
    have hroot := Yaml.Document.root_eq_none_of_gap
      (hlist.symm ▸ Yaml.isReadable_of_mem_joinLines h) (hlist.symm ▸ Yaml.Lexer.isGap_joinLines h)
    exact Yaml.Decode.ofText_of_none hroot

theorem FileSystem.readText_of_readFile {fs : FileSystem} {path : Path} {text : String}
    (h : fs.readFile path = .ok (Text.Utf8.bytes text)) : fs.readText path = .ok text := by
  simp only [readText, h, Text.Utf8.decode?_eq_some_iff.2 rfl]

theorem Config.override_of_unsets {env : Environment} (hroot : env.get? rootVariable = none)
    (htimeout : env.get? timeoutVariable = none) (c : Config) : override env c = .ok c := by
  rw [override_of_unset c (Environment.text?_eq_none_of_get? htimeout),
    overrideRoot_of_unset (Environment.text?_eq_none_of_get? hroot)]

/-- **A file of bare lines gives every setting its default**, when the environment sets none. -/
theorem loadConfig_bare {fs : FileSystem} {env : Environment} {path : Path}
    {lines : List (List Char)} (hroot : env.get? Config.rootVariable = none)
    (htimeout : env.get? Config.timeoutVariable = none)
    (hfile : fs.readFile path = .ok (Text.Utf8.bytes (String.ofList (Yaml.joinLines lines))))
    (hlines : ∀ line ∈ lines, Yaml.IsBareLine line) : loadConfig fs env path = .ok {} := by
  have hload : Config.ofFile fs path = .ok {} := by
    simp only [Config.ofFile, FileSystem.readText_of_readFile hfile, Config.ofText_joinLines hlines]
  rw [loadConfig, hload]
  exact Config.override_of_unsets hroot htimeout {}

/-- Two settings that are commented out, one of them indented, with an empty line between them and a
    line break at the end. -/
theorem loadConfig_bare_notes :
    let lines := [['#', 'a', ':'], [], [' ', ' ', '#', '?'], []]
    let fs := FileSystem.written [("notes",
      .file (Text.Utf8.bytes (String.ofList (Yaml.joinLines lines))) false)]
    (∀ line ∈ lines, Yaml.IsBareLine line) ∧ loadConfig fs {} (.ofString "notes") = .ok {} := by
  intro lines fs
  have hlines : ∀ line ∈ lines, Yaml.IsBareLine line := by
    have hfirst : ∀ c ∈ ['a', ':'], Yaml.IsPrintable c :=
      List.forall_mem_cons.2 ⟨by decide, List.forall_mem_singleton.2 (by decide)⟩
    have hthird : ∀ c ∈ ['?'], Yaml.IsPrintable c :=
      List.forall_mem_singleton.2 (by decide)
    simp only [lines, List.forall_mem_cons]
    exact ⟨⟨0, .inr ⟨_, rfl, hfirst⟩⟩, ⟨0, .inl rfl⟩, ⟨2, .inr ⟨_, rfl, hthird⟩⟩, ⟨0, .inl rfl⟩,
      List.forall_mem_nil _⟩
  exact ⟨hlines, loadConfig_bare rfl rfl (by decide +kernel) hlines⟩

end TemplatePress
