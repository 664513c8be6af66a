import Mathlib.Data.List.DropRight
import TemplatePress.Proofs.Announcements
import TemplatePress.Proofs.Encodings
import TemplatePress.Proofs.SearchOrder

/-!
# Listings, read back

A run writes one line for each folder: its path, without the separators at its end, and one
separator. Which folders were meant can be read off the lines again. This file fixes:

* `components_append_separators`: how many separators end a path does not matter, as long as there
  is one where nothing else is written;
* `exists_trimmed`: a text is what is left of it without separators at its end, and these;
* `TemplateFolder.ReadsAs`: a line ends in one separator and is, read as a path, the folder. The line
  of a folder whose path is a text of one line is such a line (`readsAs_display`);
* `splitOn_lines`: at the line breaks a listing falls apart into its lines;
* `generateAll_readsBack`: the output of a whole run, and what equal outputs say of two lists.
-/

namespace TemplatePress

/-! ## 1. Separators at the end -/

namespace Path

theorem components_congr {p q : Path} (habs : p.isAbsolute = q.isAbsolute)
    (hparts : p.parts = q.parts) : p.components = q.components := by
  rw [components, components, habs, hparts]

theorem parts_append_separators (bs : Bytes) (k : Nat) :
    (⟨bs ++ List.replicate k separator⟩ : Path).parts = (⟨bs⟩ : Path).parts := by
  induction k with
  | zero => simp
  | succ k ih =>
    rw [← ih, parts, parts, List.replicate_succ', ← List.append_assoc, split_append_separator]
    simp [split]

/-- **Further separators at the end of a path do not count.** Nothing but separators is the root. -/
theorem components_append_separators {bs : Bytes} {k : Nat} (h : bs ≠ [] ∨ k ≠ 0) :
    (⟨bs ++ List.replicate k separator⟩ : Path).components =
      (⟨bs ++ [separator]⟩ : Path).components := by
  have hone := parts_append_separators bs 1
  refine components_congr ?_ ((parts_append_separators bs k).trans hone.symm)
  cases bs with
  | nil =>
    obtain ⟨k, rfl⟩ := Nat.exists_eq_succ_of_ne_zero (h.resolve_left (· rfl))
    rfl
  | cons b bs => rfl

end Path

/-! ## 2. One line -/

/-- The byte that ends a line. -/
def lineBreak : UInt8 := 0x0A

/-- What is left of a text without the separators at its end. -/
theorem exists_trimmed (s : String) : ∃ (front : List Char) (k : Nat),
    s.toList = front ++ List.replicate k '/' ∧ front.getLast? ≠ some '/' ∧
      (⟨.ofString s⟩ : TemplateFolder).trimmed = String.ofList front := by
  have hslashes : s.toList.rtakeWhile (· = '/') =
      List.replicate (s.toList.rtakeWhile (· = '/')).length '/' :=
    List.eq_replicate_iff.2 ⟨rfl, fun c hc => by simpa using List.mem_rtakeWhile_imp hc⟩
  refine ⟨s.toList.rdropWhile (· = '/'), (s.toList.rtakeWhile (· = '/')).length, ?_, ?_, ?_⟩
  · rw [← hslashes, List.rdropWhile_append_rtakeWhile]
  · intro h
    obtain ⟨front, hfront⟩ := List.getLast?_eq_some_iff.1 h
    have hlast := List.rdropWhile_last_not (· = '/') s.toList (by simp [hfront])
    simp [hfront] at hlast
  · rw [TemplateFolder.trimmed, Path.display, Path.ofString, Text.Utf8.lossy_bytes]
    rfl

theorem bytes_append_separators (front : List Char) (k : Nat) :
    Text.Utf8.bytes (String.ofList (front ++ List.replicate k '/')) =
      Text.Utf8.bytes (String.ofList front) ++ List.replicate k Path.separator := by
  have hslashes : (List.replicate k '/').flatMap String.utf8EncodeChar =
      List.replicate k Path.separator := by
    induction k with
    | zero => rfl
    | succ k ih => rw [List.replicate_succ, List.flatMap_cons, ih]; rfl
  simp only [Text.Utf8.bytes, String.toList_ofList, List.flatMap_append, hslashes]

/-- A separator at the end of what a text writes is a slash at its end. -/
theorem slash_of_getLast? {cs : List Char}
    (h : (Text.Utf8.bytes (String.ofList cs)).getLast? = some Path.separator) :
    cs.getLast? = some '/' := by
  induction cs using List.reverseRecOn with
  | nil => cases h
  | append_singleton cs c ih =>
    have hmem : Path.separator ∈ String.utf8EncodeChar c := by
      obtain ⟨lead, more, hc, -⟩ := Text.Utf8.piece_encode c
      rw [Text.Utf8.bytes, String.toList_ofList, List.flatMap_append, List.flatMap_singleton, hc,
        List.getLast?_append_of_ne_nil _ (List.cons_ne_nil _ _)] at h
      exact hc ▸ List.mem_of_getLast? h
    have hslash : c = '/' :=
      Char.ext (UInt32.toNat_inj.1 (val_of_mem_utf8EncodeChar hmem (by decide)))
    rw [hslash, List.getLast?_concat]

namespace TemplateFolder

/-- The folder's path is a text of one line, and not empty. -/
def IsListable (folder : TemplateFolder) : Prop :=
  ∃ s, Text.Utf8.decode? folder.path.bytes = some s ∧ s ≠ "" ∧ '\n' ∉ s.toList

/-- The line ends in one separator and is the folder, in the order and the equality of paths. -/
structure ReadsAs (folder : TemplateFolder) (line : Bytes) : Prop where
  ends : ∃ front, line = front ++ [Path.separator] ∧ front.getLast? ≠ some Path.separator
  equal : folder.same ⟨⟨line⟩⟩ = true
  inOrder : folder.compare ⟨⟨line⟩⟩ = .eq

/-- **The line of a folder ends in one separator and is the folder.** -/
theorem readsAs_display {folder : TemplateFolder} (h : folder.IsListable) :
    folder.ReadsAs (Text.Utf8.bytes folder.display) := by
  obtain ⟨⟨bytes⟩⟩ := folder
  obtain ⟨s, hs, hne, -⟩ := h
  obtain rfl : bytes = Text.Utf8.bytes s := Text.Utf8.decode?_eq_some_iff.1 hs
  obtain ⟨front, k, hsplit, hlast, htrimmed⟩ := exists_trimmed s
  have hbytes : Text.Utf8.bytes s =
      Text.Utf8.bytes (String.ofList front) ++ List.replicate k Path.separator := by
    rw [← bytes_append_separators, ← hsplit, String.ofList_toList]
  have hline : Text.Utf8.bytes (⟨⟨Text.Utf8.bytes s⟩⟩ : TemplateFolder).display =
      Text.Utf8.bytes (String.ofList front) ++ [Path.separator] := by
    have htrimmed' : (⟨⟨Text.Utf8.bytes s⟩⟩ : TemplateFolder).trimmed = String.ofList front :=
      htrimmed
    rw [display, htrimmed', ← String.ofList_toList (s := "/"), ← String.ofList_append]
    exact bytes_append_separators front 1
  have hequal : (⟨Text.Utf8.bytes s⟩ : Path).components =
      (⟨Text.Utf8.bytes (String.ofList front) ++ [Path.separator]⟩ : Path).components := by
    rw [hbytes]
    refine Path.components_append_separators (or_iff_not_imp_right.2 fun hk hempty => hne ?_)
    rw [not_not.1 hk, List.replicate_zero, List.append_nil, hempty] at hbytes
    exact bytes_injective hbytes
  rw [hline]
  refine ⟨⟨_, rfl, fun h => hlast (slash_of_getLast? h)⟩, decide_eq_true hequal, ?_⟩
  · rw [compare, Path.compare, ← hequal]
    exact Path.compareComponents_self _

/-- Nothing in the line breaks it. -/
theorem lineBreak_notMem_display {folder : TemplateFolder} (h : folder.IsListable) :
    lineBreak ∉ Text.Utf8.bytes folder.display := by
  obtain ⟨⟨bytes⟩⟩ := folder
  obtain ⟨s, hs, -, hone⟩ := h
  obtain rfl : bytes = Text.Utf8.bytes s := Text.Utf8.decode?_eq_some_iff.1 hs
  obtain ⟨front, k, hsplit, -, htrimmed⟩ := exists_trimmed s
  have htrimmed' : (⟨⟨Text.Utf8.bytes s⟩⟩ : TemplateFolder).trimmed = String.ofList front :=
    htrimmed
  intro hmem
  rw [display, htrimmed', Text.Utf8.bytes, String.toList_append, String.toList_ofList,
    List.mem_flatMap] at hmem
  obtain ⟨c, hc, hbyte⟩ := hmem
  have hbreak : c = '\n' :=
    Char.ext (UInt32.toNat_inj.1 (val_of_mem_utf8EncodeChar hbyte (by decide)))
  subst hbreak
  rcases List.mem_append.1 hc with hc | hc
  · exact hone (hsplit ▸ List.mem_append_left _ hc)
  · exact absurd hc (by decide)

theorem line_eq (folder : TemplateFolder) :
    folder.line = Text.Utf8.bytes folder.display ++ [lineBreak] := by
  rw [line, Text.Utf8.bytes, String.toList_append, List.flatMap_append]
  rfl

end TemplateFolder

/-! ## 3. All lines -/

/-- **At the line breaks a listing falls apart into its lines**, with nothing behind the last. -/
theorem splitOn_lines {folders : List TemplateFolder} (h : ∀ folder ∈ folders, folder.IsListable) :
    (folders.flatMap TemplateFolder.line).splitOn lineBreak =
      folders.map (fun folder => Text.Utf8.bytes folder.display) ++ [[]] := by
  induction folders with
  | nil => rfl
  | cons folder rest ih =>
    rw [List.forall_mem_cons] at h
    have hone : (Text.Utf8.bytes folder.display).splitOn lineBreak =
        [Text.Utf8.bytes folder.display] := by
      have hparts : ∀ part ∈ [Text.Utf8.bytes folder.display], lineBreak ∉ part := by
        simpa using TemplateFolder.lineBreak_notMem_display h.1
      rw [← List.splitOn_intercalate lineBreak hparts (List.cons_ne_nil _ _),
        List.intercalate_singleton]
    rw [List.flatMap_cons, TemplateFolder.line_eq, List.append_assoc, List.singleton_append,
      List.splitOn_eq_splitOnP, List.splitOnP_append_cons _ _ (by simp),
      ← List.splitOn_eq_splitOnP, ← List.splitOn_eq_splitOnP, hone, ih h.2]
    rfl

theorem forall₂_readsAs {folders : List TemplateFolder}
    (h : ∀ folder ∈ folders, folder.IsListable) :
    List.Forall₂ TemplateFolder.ReadsAs folders
      (folders.map fun folder => Text.Utf8.bytes folder.display) :=
  List.forall₂_map_right_iff.2
    (List.forall₂_same.2 fun folder hmem => TemplateFolder.readsAs_display (h folder hmem))

/-- **Lists of one listing are the same folders**, each however it is spelled. -/
theorem forall₂_same_of_lines {folders others : List TemplateFolder}
    (h : ∀ folder ∈ folders, folder.IsListable) (hothers : ∀ folder ∈ others, folder.IsListable)
    (heq : folders.flatMap TemplateFolder.line = others.flatMap TemplateFolder.line) :
    List.Forall₂ (fun folder other => folder.same other = true) folders others := by
  have hlines := (splitOn_lines h).symm.trans ((congrArg _ heq).trans (splitOn_lines hothers))
  have hreads := forall₂_readsAs h
  rw [List.append_cancel_right hlines, List.forall₂_map_right_iff] at hreads
  have hboth := (List.forall₂_and_left _ _).2 ⟨hothers, hreads.flip⟩
  refine hboth.flip.imp fun folder other hboth => ?_
  -- both are the folder that the other's line reads as
  obtain ⟨hother, hreads⟩ := hboth
  exact decide_eq_true ((of_decide_eq_true hreads.equal).trans
    (of_decide_eq_true (TemplateFolder.readsAs_display hother).equal).symm)

section Listing

variable {σ ω : Type} (tools : Toolchain σ) (writer : Writer ω) (layout : Layout)
  (options : PackageOptions) (keepGoing : Bool)

/-- **What a whole run writes is the list of its folders.** At the line breaks it falls apart into
    one line for each folder, in order, and each line ends in one separator and is the folder. So two
    runs, of whatever tools and options, that write the same were given the same folders. -/
theorem generateAll_readsBack {folders : List TemplateFolder}
    (hfolders : ∀ folder ∈ folders, folder.IsListable) {run run' : Run σ ω}
    {report : PipelineReport}
    (h : generateAll tools writer layout options keepGoing folders run = .ok report run') :
    ∃ written, run'.output.accepted = run.output.accepted ++ written ∧
      (∃ lines, written.splitOn lineBreak = lines ++ [[]] ∧
        List.Forall₂ TemplateFolder.ReadsAs folders lines) ∧
      ∀ {σ' ω' : Type} (tools' : Toolchain σ') (writer' : Writer ω') (layout' : Layout)
        (options' : PackageOptions) (keepGoing' : Bool) (others : List TemplateFolder)
        (start final : Run σ' ω') (report' : PipelineReport),
        (∀ folder ∈ others, folder.IsListable) →
        generateAll tools' writer' layout' options' keepGoing' others start = .ok report' final →
        final.output.accepted = start.output.accepted ++ written →
        List.Forall₂ (fun folder other => folder.same other = true) folders others := by
  refine ⟨_, accepted_of_buildOnto h, ⟨_, splitOn_lines hfolders, forall₂_readsAs hfolders⟩, ?_⟩
  intro σ' ω' tools' writer' layout' options' keepGoing' others start final report' hothers h' heq
  exact forall₂_same_of_lines hfolders hothers
    (List.append_cancel_left (heq.symm.trans (accepted_of_buildOnto h')))

end Listing

/-- A template in a folder with a name that is not ASCII. -/
def signpost : FileSystem :=
  .written [("T", .directory), ("T/Empty.sr", .directory),
    ("T/Empty.sr/Serifian.plist", .file (Text.Utf8.bytes "m") false),
    ("s", .directory), ("s/ä", .directory),
    ("s/ä/main.typ", .file (Text.Utf8.bytes "= A") false)]

/-- Two spellings of one folder, and the root, which has no name to build a package for. -/
theorem generateAll_readsBack_signpost :
    let tools := Rehearsal.toolchain {}
    let folders : List TemplateFolder :=
      ["s/ä//", "s/./ä/.", "//"].map fun folder => ⟨.ofString folder⟩
    let run : Run (List ToolCall) Unit := ⟨⟨signpost, []⟩, ⟨(), []⟩⟩
    (∀ folder ∈ folders, folder.IsListable) ∧
      ∃ report run', generateAll tools Writer.accepting ⟨.ofString "T"⟩ {} true folders run =
          .ok report run' ∧
        ∃ written, run'.output.accepted = written ∧
          (∃ lines, written.splitOn lineBreak = lines ++ [[]] ∧
            List.Forall₂ TemplateFolder.ReadsAs folders lines) ∧
          ∀ {σ' ω' : Type} (tools' : Toolchain σ') (writer' : Writer ω') (layout' : Layout)
            (options' : PackageOptions) (keepGoing' : Bool) (others : List TemplateFolder)
            (start final : Run σ' ω') (report' : PipelineReport),
            (∀ folder ∈ others, folder.IsListable) →
            generateAll tools' writer' layout' options' keepGoing' others start =
              .ok report' final →
            final.output.accepted = start.output.accepted ++ written →
            List.Forall₂ (fun folder other => folder.same other = true) folders others := by
  intro tools folders run
  have hfolders : ∀ folder ∈ folders, folder.IsListable := by
    intro folder hmem
    obtain ⟨s, hs, rfl⟩ := List.mem_map.1 hmem
    refine ⟨s, Text.Utf8.decode?_eq_some_iff.2 rfl, ?_⟩
    revert s
    decide
  obtain ⟨report, run', h, -⟩ :=
    buildOnto_keepGoing tools accepts_accepting ⟨.ofString "T"⟩ {} folders {} run
  exact ⟨hfolders, report, run', h,
    generateAll_readsBack tools Writer.accepting ⟨.ofString "T"⟩ {} true hfolders h⟩

end TemplatePress
