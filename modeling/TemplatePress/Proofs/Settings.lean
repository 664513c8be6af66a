import TemplatePress.Proofs.Blanks
import TemplatePress.Proofs.Comments
import TemplatePress.Proofs.Records

/-!
# Settings in a document

The settings are a record, with a record of the programs in it and a list of records, the
repositories. This file says which value every setting has, by the entries of a document. It fixes:

* `RepositoryRef.schema`, `ToolsConfig.schema`, `Config.schema`: the settings, by name, kind and
  place;
* `Config.decode_decodes`: the reading of settings gives exactly what these tables say;
* `Config.Faulty`: what makes entries unfit, whatever else they say;
* `HoldsSettings`: a file holds one document, which is a mapping without references and tags;
* `loadConfig_described`: what loading such a file gives.
-/

namespace TemplatePress

open Yaml (Decode Document Kind Mark Node Route Schema Slot)

variable {d : Document}

/-- A setting that is a text. -/
def Yaml.Slot.text {σ : Type} (name : String) (get : σ → String) (put : String → σ → σ)
    (get_put : ∀ v s, get (put v s) = v) : Slot σ :=
  { name, Value := String, kind := .scalar Kind.MeansText, get, put, get_put }

/-- A setting that is a number. -/
def Yaml.Slot.number {σ : Type} (bits : Nat) (name : String) (get : σ → Nat) (put : Nat → σ → σ)
    (get_put : ∀ v s, get (put v s) = v) : Slot σ :=
  { name, Value := Nat, kind := .scalar (Kind.MeansNumber bits), get, put, get_put }

theorem Yaml.Kind.Decodes.put {α σ : Type} {K : Kind α} {read : Route → Node → Decode α}
    (h : K.Decodes read) {n : Node} (hn : n.Bare) (route : Route) (put : α → σ) :
    Decode.Gives (do return put (← read route n)) fun s => ∃ v, K.Reads n v ∧ s = put v :=
  (h route n hn).bind fun _ _ => Decode.gives_pure _

/-! ## 1. Repositories -/

namespace RepositoryRef

/-- A field that is a text and has to be given. -/
def requiredSlot (name : String) (get : Fields → Option String)
    (put : Option String → Fields → Fields) (get_put : ∀ v f, get (put v f) = v) :
    Slot Fields :=
  { name, Value := Option String, kind := .scalar (Kind.MeansAs some Kind.MeansText), get, put,
    get_put }

def authorSlot : Slot Fields :=
  requiredSlot "author" Fields.author (fun v f => { f with author := v }) fun _ _ => rfl

def repoSlot : Slot Fields :=
  requiredSlot "repo" Fields.repo (fun v f => { f with repo := v }) fun _ _ => rfl

def slots : List (Slot Fields) :=
  [authorSlot, repoSlot,
   { name := "reference", Value := Option String,
     kind := .scalar (Kind.MeansMaybe Kind.MeansText), get := Fields.reference,
     put := fun v f => { f with reference := v }, get_put := fun _ _ => rfl }]

/-- The fields of a repository: texts, of which the last may be nothing. -/
def schema : Schema Fields where
  slots := slots
  apart := by simp [slots, authorSlot, repoSlot, requiredSlot, Slot.apart_iff]
  ext f f' h := by
    simp only [slots, authorSlot, repoSlot, requiredSlot, List.forall_mem_cons] at h
    obtain ⟨hauthor, hrepo, hreference, -⟩ := h
    cases f
    cases f'
    simp_all

theorem schema_reader : schema.Reader (setField d) := by
  simp only [Schema.Reader, schema, slots, List.forall_mem_cons]
  refine ⟨fun route n f hn => ?_, fun route n f hn => ?_, fun route n f hn => ?_,
    List.forall_mem_nil _⟩
  · exact Decode.as_gives (Decode.text_decodes "a string" route n hn) some
      fun v => { f with author := v }
  · exact Decode.as_gives (Decode.text_decodes "a string" route n hn) some
      fun v => { f with repo := v }
  · exact (Decode.optional_decodes (Decode.text_decodes "a string")).put hn route _

/-- The fields of a whole repository. -/
def toFields (r : RepositoryRef) : Fields :=
  { author := some r.author, repo := some r.repo, reference := r.reference }

/-- The fields that have to be given are given. -/
def Names (es : List (Node × Node)) : Prop :=
  "author" ∈ (schema.given es).map Prod.fst ∧ "repo" ∈ (schema.given es).map Prod.fst

theorem exists_eq_some_iff {name : String} {get : Fields → Option String}
    {put : Option String → Fields → Fields} {get_put : ∀ v f, get (put v f) = v}
    (hstart : get {} = none) {given : List (String × Node)} {f : Fields}
    (h : (requiredSlot name get put get_put).Settles {} given f) :
    (∃ s, get f = some s) ↔ name ∈ given.map Prod.fst := by
  rcases h with ⟨n, hn, _, _, _, -, s, -, hs⟩ | ⟨hnot, hnone⟩
  · exact iff_of_true ⟨s, hs⟩ (List.mem_map_of_mem hn)
  · refine iff_of_false ?_ hnot
    rintro ⟨s, hs⟩
    cases hs.symm.trans (hnone.trans hstart)

/-- Repositories, whose author and name have to be given. -/
def kind : Kind RepositoryRef where
  Reads n r := (schema.kind {}).Reads n r.toFields
  Accepts n := ∃ mark es, n = .mapping mark es ∧ schema.Fits es ∧ Names es
  Alike := (schema.kind {}).Alike
  accepts_iff {n} := by
    have hauthor {f : Fields} {es : List (Node × Node)} (hf : schema.Describes {} es f) :=
      exists_eq_some_iff rfl (hf.settings authorSlot List.mem_cons_self)
    have hrepo {f : Fields} {es : List (Node × Node)} (hf : schema.Describes {} es f) :=
      exists_eq_some_iff rfl (hf.settings repoSlot (List.mem_cons_of_mem _ List.mem_cons_self))
    constructor
    · rintro ⟨mark, es, rfl, hfits, hnames⟩
      obtain ⟨f, hf⟩ := (Schema.exists_describes_iff {}).2 hfits
      obtain ⟨author, hauthor⟩ := (hauthor hf).2 hnames.1
      obtain ⟨repo, hrepo⟩ := (hrepo hf).2 hnames.2
      have hfields : f = toFields ⟨author, repo, f.reference⟩ := by
        rw [toFields, ← hauthor, ← hrepo]
      exact ⟨_, mark, es, rfl, hfields ▸ hf⟩
    · rintro ⟨r, mark, es, rfl, hf⟩
      exact ⟨mark, es, rfl, (Schema.exists_describes_iff {}).1 ⟨_, hf⟩,
        (hauthor hf).1 ⟨r.author, rfl⟩, (hrepo hf).1 ⟨r.repo, rfl⟩⟩
  alike_self := fun ⟨mark, es, hn, hfits, _⟩ =>
    (schema.kind {}).alike_self ⟨mark, es, hn, hfits⟩
  reads_alike := (schema.kind {}).reads_alike

theorem ofFields_gives (f : Fields) : Decode.Gives (ofFields f) fun r => f = r.toFields := by
  obtain ⟨author, repo, reference⟩ := f
  cases author with
  | none => exact (Decode.gives_fail _).congr fun r => iff_of_false id nofun
  | some author =>
    cases repo with
    | none => exact (Decode.gives_fail _).congr fun r => iff_of_false id nofun
    | some repo =>
      refine (Decode.gives_pure _).congr fun r => ?_
      obtain ⟨author', repo', reference'⟩ := r
      simp [toFields, eq_comm]

theorem decode_decodes : kind.Decodes (decode d) := by
  intro route n hn
  refine (Schema.record_gives schema_reader ofFields_gives "struct RepositoryRef" {} route hn).congr
    fun r => ?_
  constructor
  · rintro ⟨_, ⟨-, hstart⟩ | ⟨-, hreads⟩, rfl⟩
    · cases hstart
    · exact hreads
  · rintro ⟨mark, es, rfl, hdescribes⟩
    exact ⟨r.toFields, .inr ⟨Node.not_isNothing_mapping, mark, es, rfl, hdescribes⟩, rfl⟩

end RepositoryRef

/-! ## 2. Programs -/

namespace ToolsConfig

def slots : List (Slot ToolsConfig) :=
  [.text "git" git (fun v t => { t with git := v }) fun _ _ => rfl,
   .text "cp" cp (fun v t => { t with cp := v }) fun _ _ => rfl,
   .text "typst" typst (fun v t => { t with typst := v }) fun _ _ => rfl,
   .text "convert" convert (fun v t => { t with convert := v }) fun _ _ => rfl,
   { name := "timeout_secs", Value := Option Nat,
     kind := .scalar (Kind.MeansMaybe (Kind.MeansNumber 64)), get := timeoutSecs,
     put := fun v t => { t with timeoutSecs := v }, get_put := fun _ _ => rfl }]

def schema : Schema ToolsConfig where
  slots := slots
  apart := by simp [slots, Slot.text, Slot.apart_iff]
  ext t t' h := by
    simp only [slots, Slot.text, List.forall_mem_cons] at h
    obtain ⟨hgit, hcp, htypst, hconvert, htimeout, -⟩ := h
    cases t
    cases t'
    simp_all

theorem schema_reader : schema.Reader (setField d) := by
  simp only [Schema.Reader, schema, slots, List.forall_mem_cons]
  refine ⟨fun route n t hn => ?_, fun route n t hn => ?_, fun route n t hn => ?_,
    fun route n t hn => ?_, fun route n t hn => ?_, List.forall_mem_nil _⟩
  · exact (Decode.text_decodes "a string").put hn route _
  · exact (Decode.text_decodes "a string").put hn route _
  · exact (Decode.text_decodes "a string").put hn route _
  · exact (Decode.text_decodes "a string").put hn route _
  · exact (Decode.optional_decodes (Decode.unsigned_decodes "u64" (Nat.le_refl _)
      fun _ => Number.le_max64_iff)).put hn route _

def kind : Kind ToolsConfig :=
  (schema.kind {}).orNothing {}

theorem decode_decodes : kind.Decodes (decode d) :=
  Schema.record_decodes schema_reader "struct ToolsConfig" {}

end ToolsConfig

/-! ## 3. Settings -/

namespace Config

/-- The settings, each of its kind. -/
def slots : List (Slot Config) :=
  [{ name := "templates_root", Value := Path,
     kind := .scalar (Kind.MeansAs Path.ofString Kind.MeansText), get := templatesRoot,
     put := fun v c => { c with templatesRoot := v }, get_put := fun _ _ => rfl },
   .text "host" host (fun v c => { c with host := v }) fun _ _ => rfl,
   { name := "repositories", Value := List RepositoryRef,
     kind := RepositoryRef.kind.list.orNothing [], get := repositories,
     put := fun v c => { c with repositories := v }, get_put := fun _ _ => rfl },
   .text "entry_point" entryPoint (fun v c => { c with entryPoint := v }) fun _ _ => rfl,
   .number 32 "preview_dpi" previewDpi (fun v c => { c with previewDpi := v }) fun _ _ => rfl,
   .number 32 "preview_page" previewPage (fun v c => { c with previewPage := v }) fun _ _ => rfl,
   { name := "keep_going", Value := Bool, kind := .scalar Kind.MeansTruth, get := keepGoing,
     put := fun v c => { c with keepGoing := v }, get_put := fun _ _ => rfl },
   { name := "tools", Value := ToolsConfig, kind := ToolsConfig.kind, get := tools,
     put := fun v c => { c with tools := v }, get_put := fun _ _ => rfl }]

def schema : Schema Config where
  slots := slots
  apart := by simp [slots, Slot.text, Slot.number, Slot.apart_iff]
  ext c c' h := by
    simp only [slots, Slot.text, Slot.number, List.forall_mem_cons] at h
    obtain ⟨hroot, hhost, hrepositories, hentry, hdpi, hpage, hkeep, htools, -⟩ := h
    cases c
    cases c'
    simp_all

theorem schema_reader : schema.Reader (setField d) := by
  simp only [Schema.Reader, schema, slots, List.forall_mem_cons]
  refine ⟨fun route n c hn => ?_, fun route n c hn => ?_, fun route n c hn => ?_,
    fun route n c hn => ?_, fun route n c hn => ?_, fun route n c hn => ?_,
    fun route n c hn => ?_, fun route n c hn => ?_, List.forall_mem_nil _⟩
  · exact Decode.as_gives (Decode.text_decodes "path string" route n hn) Path.ofString
      fun v => { c with templatesRoot := v }
  · exact (Decode.text_decodes "a string").put hn route _
  · exact (Decode.sequence_decodes RepositoryRef.decode_decodes).put hn route _
  · exact (Decode.text_decodes "a string").put hn route _
  · exact (Decode.unsigned_decodes "u32" (by decide) fun _ => Number.le_max32_iff).put hn route _
  · exact (Decode.unsigned_decodes "u32" (by decide) fun _ => Number.le_max32_iff).put hn route _
  · exact Decode.boolean_decodes.put hn route _
  · exact ToolsConfig.decode_decodes.put hn route _

theorem decode_decodes : ((schema.kind {}).orNothing {}).Decodes (decode d) :=
  Schema.record_decodes schema_reader "struct Config" {}

end Config

/-! ## 4. Entries that are at fault -/

/-- A plain whole number that is below zero or takes more bits. -/
def Yaml.Node.IsOutside (bits : Nat) (n : Node) : Prop :=
  ∃ mark text z, n = .scalar mark none text .plain ∧ Yaml.Scalar.IsInteger text.toList z ∧
    ¬ (0 ≤ z ∧ z < 2 ^ bits)

theorem Yaml.Node.IsOutside.not_meansNumber {bits : Nat} {text : String} {z : Int} {n : Nat}
    {style : Yaml.ScalarStyle} (hz : Yaml.Scalar.IsInteger text.toList z)
    (hout : ¬ (0 ≤ z ∧ z < 2 ^ bits)) : ¬ Kind.MeansNumber bits text style n := by
  rintro ⟨-, hn, hlt⟩
  refine hout ?_
  rw [hn.eq_of_isInteger hz]
  exact ⟨Int.natCast_nonneg n, by exact_mod_cast hlt⟩

theorem Yaml.Node.IsOutside.not_accepts {bits : Nat} {n : Node} (h : n.IsOutside bits) :
    ¬ (Kind.scalar (Kind.MeansNumber bits)).Accepts n := by
  obtain ⟨mark, text, z, rfl, hz, hout⟩ := h
  rintro ⟨_, _, _, ⟨⟩, _, hmeans⟩
  exact not_meansNumber hz hout hmeans

theorem Yaml.Node.IsOutside.not_accepts_maybe {bits : Nat} {n : Node} (h : n.IsOutside bits) :
    ¬ (Kind.scalar (Kind.MeansMaybe (Kind.MeansNumber bits))).Accepts n := by
  obtain ⟨mark, text, z, rfl, hz, hout⟩ := h
  rintro ⟨_, _, _, ⟨⟩, _, hmeans⟩
  rw [Kind.MeansMaybe, if_neg fun hnull => hz.not_isNull hnull.2] at hmeans
  obtain ⟨_, hmeans, -⟩ := hmeans
  exact not_meansNumber hz hout hmeans

/-- A repository with a field given twice, or without its author or its name. -/
def RepositoryRef.Faulty (n : Node) : Prop :=
  n.IsNothing ∨ ∃ mark es, n = .mapping mark es ∧
    (¬ ((schema.given es).map Prod.fst).Nodup ∨ ¬ Names es)

theorem RepositoryRef.Faulty.not_accepts {n : Node} (h : Faulty n) : ¬ kind.Accepts n := by
  rcases h with ⟨mark, rfl⟩ | ⟨mark, es, rfl, h⟩
  · rintro ⟨_, _, ⟨⟩, -⟩
  · rintro ⟨_, _, ⟨⟩, hfits, hnames⟩
    rcases h with h | h
    · exact h hfits.once
    · exact h hnames

namespace Config

/-- What is wrong with entries whatever else they say. -/
inductive Faulty (es : List (Node × Node)) : Prop
  /-- A setting is given twice. -/
  | repeated (h : ¬ ((schema.given es).map Prod.fst).Nodup)
  /-- A setting of the programs is given twice. -/
  | repeatedTool {mark : Mark} {ts : List (Node × Node)}
    (htools : ("tools", .mapping mark ts) ∈ schema.given es)
    (h : ¬ ((ToolsConfig.schema.given ts).map Prod.fst).Nodup)
  /-- A repository is at fault. -/
  | repository {mark : Mark} {items : List Node} {n : Node}
    (hitems : ("repositories", .sequence mark items) ∈ schema.given es) (hn : n ∈ items)
    (h : RepositoryRef.Faulty n)
  /-- The resolution or the page of the previews is no number of 32 bits. -/
  | preview {name : String} {n : Node} (hname : name = "preview_dpi" ∨ name = "preview_page")
    (hn : (name, n) ∈ schema.given es) (h : n.IsOutside 32)
  /-- The time limit is no number of 64 bits. -/
  | timeout {mark : Mark} {ts : List (Node × Node)} {n : Node}
    (htools : ("tools", .mapping mark ts) ∈ schema.given es)
    (hn : ("timeout_secs", n) ∈ ToolsConfig.schema.given ts) (h : n.IsOutside 64)

theorem fits_of_tools {es ts : List (Node × Node)} {mark : Mark} (h : schema.Fits es)
    (htools : ("tools", .mapping mark ts) ∈ schema.given es) : ToolsConfig.schema.Fits ts := by
  have htyped := h.typed
  simp only [schema, slots, List.forall_mem_cons] at htyped
  obtain ⟨-, -, -, -, -, -, -, hsection, -⟩ := htyped
  rcases hsection _ htools with ⟨_, ⟨⟩⟩ | ⟨_, _, ⟨⟩, hfits⟩
  exact hfits

theorem Faulty.not_fits {es : List (Node × Node)} (h : Faulty es) : ¬ schema.Fits es := by
  intro hfits
  have htyped := hfits.typed
  simp only [schema, slots, List.forall_mem_cons] at htyped
  obtain ⟨-, -, hrepositories, -, hdpi, hpage, -, -, -⟩ := htyped
  cases h with
  | repeated h => exact h hfits.once
  | repeatedTool htools h => exact h (fits_of_tools hfits htools).once
  | repository hitems hn h =>
    rcases hrepositories _ hitems with ⟨_, ⟨⟩⟩ | ⟨_, _, ⟨⟩, haccepts⟩
    exact h.not_accepts (haccepts _ hn)
  | preview hname hn h =>
    rcases hname with rfl | rfl
    · exact h.not_accepts (hdpi _ hn)
    · exact h.not_accepts (hpage _ hn)
  | timeout htools hn h =>
    have htyped := (fits_of_tools hfits htools).typed
    simp only [ToolsConfig.schema, ToolsConfig.slots, List.forall_mem_cons] at htyped
    obtain ⟨-, -, -, -, htimeout, -⟩ := htyped
    exact h.not_accepts_maybe (htimeout _ hn)

end Config

/-! ## 5. Files of settings -/

/-- The settings are loaded from a file with one document, which is a mapping of the entries without
    references and tags, and from nowhere else. -/
structure HoldsSettings (fs : FileSystem) (env : Environment) (path : Path)
    (es : List (Node × Node)) : Prop where
  root : env.get? Config.rootVariable = none
  timeout : env.get? Config.timeoutVariable = none
  document : ∃ text mark, fs.readFile path = .ok (Text.Utf8.bytes text) ∧
    (Document.ofText text).root = some (.mapping mark es) ∧
    (Document.ofText text).failure = none ∧ (Document.ofText text).isFollowed = false
  keys : ∀ e ∈ es, e.1.Bare
  values : ∀ e ∈ es, e.2.Bare

/-- A text of white space, which would not be looked at as a document, has no mapping in it. -/
theorem not_isBlank_of_mapping {text : String} {mark : Mark} {es : List (Node × Node)}
    (h : (Document.ofText text).root = some (.mapping mark es)) : Text.isBlank text = false := by
  refine Bool.eq_false_iff.2 fun hblank => ?_
  rcases Document.root_of_isBlank hblank h with hnode | ⟨_, _, hnode⟩ <;> cases hnode

/-- **The settings that are loaded are those that the entries describe.** -/
theorem loadConfig_eq_ok_iff {fs : FileSystem} {env : Environment} {path : Path}
    {es : List (Node × Node)} (h : HoldsSettings fs env path es) {c : Config} :
    loadConfig fs env path = .ok c ↔ Config.schema.Describes {} es c := by
  obtain ⟨text, mark, hfile, hroot, hfailure, hfollowed⟩ := h.document
  have hread := (Config.decode_decodes (d := Document.ofText text)) .root (.mapping mark es)
    (.mapping mark h.keys h.values) 0 c
  have hload : loadConfig fs env path = .ok c ↔ Config.ofText text = .ok c := by
    rw [loadConfig, Config.ofFile, FileSystem.readText_of_readFile hfile]
    cases hc : Config.ofText text with
    | error e => simp [Except.bind, hc]
    | ok c' => simp [Except.bind, hc, Config.override_of_unsets h.root h.timeout]
  rw [hload, Config.ofText, not_isBlank_of_mapping hroot, if_neg Bool.false_ne_true,
    Decode.ofText_eq_ok_iff hroot hfailure hfollowed, hread]
  constructor
  · rintro (⟨⟨_, ⟨⟩⟩, -⟩ | ⟨-, _, _, ⟨⟩, hdescribes⟩)
    exact hdescribes
  · exact fun hdescribes => .inr ⟨Node.not_isNothing_mapping, mark, es, rfl, hdescribes⟩

/-! ## 6. Files at hand -/

def word (mark : Mark) (text : String) : Node :=
  .scalar mark none text .plain

/-- A file with a text, and nothing else. -/
def settingsFile (text : String) : FileSystem :=
  .written [("settings", .file (Text.Utf8.bytes text) false)]

theorem holdsSettings_of_events {text : String} {es : List (Node × Node)} (mark : Mark)
    (events : List (Yaml.Event Nat)) (hevents : (Document.ofText text).events = events)
    (hes : Node.ofEvents events = .mapping mark es) (hbare : (Node.mapping mark es).Bare)
    (hfailure : (Document.ofText text).failure = none)
    (hfollowed : (Document.ofText text).isFollowed = false)
    (hfile : (settingsFile text).readFile (.ofString "settings") = .ok (Text.Utf8.bytes text)) :
    HoldsSettings (settingsFile text) {} (.ofString "settings") es := by
  have hne : (Document.ofText text).events ≠ [] := by
    rw [hevents]
    rintro rfl
    cases hes
  have hroot : (Document.ofText text).root = some (.mapping mark es) := by
    rw [Document.root_of_events hne, hevents, hes]
  obtain ⟨hkeys, hvalues⟩ := Node.bare_mapping_iff.1 hbare
  exact ⟨rfl, rfl, ⟨text, mark, hfile, hroot, hfailure, hfollowed⟩, hkeys, hvalues⟩

/-- A time limit for the programs and a host. -/
def limitEntries : List (Node × Node) :=
  [(word ⟨0, 0, 0⟩ "tools",
      .mapping ⟨9, 1, 2⟩ [(word ⟨9, 1, 2⟩ "timeout_secs", word ⟨23, 1, 16⟩ "5")]),
    (word ⟨25, 2, 0⟩ "host", word ⟨31, 2, 6⟩ "h")]

/-- The same the other way round, with a name between them that means nothing. -/
def turnedEntries : List (Node × Node) :=
  [(word ⟨0, 0, 0⟩ "host", word ⟨6, 0, 6⟩ "h"), (word ⟨8, 1, 0⟩ "x", word ⟨11, 1, 3⟩ "1"),
    (word ⟨13, 2, 0⟩ "tools",
      .mapping ⟨22, 3, 2⟩ [(word ⟨22, 3, 2⟩ "timeout_secs", word ⟨36, 3, 16⟩ "5")])]

/-- Two hosts. -/
def doubledEntries : List (Node × Node) :=
  [(word ⟨0, 0, 0⟩ "host", word ⟨6, 0, 6⟩ "h"), (word ⟨8, 1, 0⟩ "host", word ⟨14, 1, 6⟩ "h")]

theorem limitEntries_held : HoldsSettings (settingsFile "tools:\n  timeout_secs: 5\nhost: h\n") {}
    (.ofString "settings") limitEntries :=
  holdsSettings_of_events ⟨0, 0, 0⟩ [⟨.mappingStart none, ⟨0, 0, 0⟩⟩,
    ⟨.scalar none none "tools" .plain, ⟨0, 0, 0⟩⟩, ⟨.mappingStart none, ⟨9, 1, 2⟩⟩,
    ⟨.scalar none none "timeout_secs" .plain, ⟨9, 1, 2⟩⟩,
    ⟨.scalar none none "5" .plain, ⟨23, 1, 16⟩⟩, ⟨.mappingEnd, ⟨25, 2, 0⟩⟩,
    ⟨.scalar none none "host" .plain, ⟨25, 2, 0⟩⟩, ⟨.scalar none none "h" .plain, ⟨31, 2, 6⟩⟩,
    ⟨.mappingEnd, ⟨33, 3, 0⟩⟩] (by decide +kernel) rfl (by simp [limitEntries, word])
    (by decide +kernel) (by decide +kernel) (by decide +kernel)

theorem turnedEntries_held : HoldsSettings
    (settingsFile "host: h\nx: 1\ntools:\n  timeout_secs: 5\n") {} (.ofString "settings")
    turnedEntries :=
  holdsSettings_of_events ⟨0, 0, 0⟩ [⟨.mappingStart none, ⟨0, 0, 0⟩⟩,
    ⟨.scalar none none "host" .plain, ⟨0, 0, 0⟩⟩, ⟨.scalar none none "h" .plain, ⟨6, 0, 6⟩⟩,
    ⟨.scalar none none "x" .plain, ⟨8, 1, 0⟩⟩, ⟨.scalar none none "1" .plain, ⟨11, 1, 3⟩⟩,
    ⟨.scalar none none "tools" .plain, ⟨13, 2, 0⟩⟩, ⟨.mappingStart none, ⟨22, 3, 2⟩⟩,
    ⟨.scalar none none "timeout_secs" .plain, ⟨22, 3, 2⟩⟩,
    ⟨.scalar none none "5" .plain, ⟨36, 3, 16⟩⟩, ⟨.mappingEnd, ⟨38, 4, 0⟩⟩,
    ⟨.mappingEnd, ⟨38, 4, 0⟩⟩] (by decide +kernel) rfl (by simp [turnedEntries, word])
    (by decide +kernel) (by decide +kernel) (by decide +kernel)

theorem doubledEntries_held : HoldsSettings (settingsFile "host: h\nhost: h\n") {}
    (.ofString "settings") doubledEntries :=
  holdsSettings_of_events ⟨0, 0, 0⟩ [⟨.mappingStart none, ⟨0, 0, 0⟩⟩,
    ⟨.scalar none none "host" .plain, ⟨0, 0, 0⟩⟩, ⟨.scalar none none "h" .plain, ⟨6, 0, 6⟩⟩,
    ⟨.scalar none none "host" .plain, ⟨8, 1, 0⟩⟩, ⟨.scalar none none "h" .plain, ⟨14, 1, 6⟩⟩,
    ⟨.mappingEnd, ⟨16, 2, 0⟩⟩] (by decide +kernel) rfl (by simp [doubledEntries, word])
    (by decide +kernel) (by decide +kernel) (by decide +kernel)

theorem limitEntries_fit : Config.schema.Fits limitEntries :=
  have hload : loadConfig (settingsFile "tools:\n  timeout_secs: 5\nhost: h\n") {}
      (.ofString "settings") = .ok { host := "h", tools := { timeoutSecs := some 5 } } := by
    decide +kernel
  (Schema.exists_describes_iff {}).1 ⟨_, (loadConfig_eq_ok_iff limitEntries_held).1 hload⟩

theorem limitEntries_rearranged : Config.schema.Rearranged limitEntries turnedEntries := by
  have htools : ToolsConfig.schema.Rearranged
      [(word ⟨9, 1, 2⟩ "timeout_secs", word ⟨23, 1, 16⟩ "5")]
      [(word ⟨22, 3, 2⟩ "timeout_secs", word ⟨36, 3, 16⟩ "5")] := by
    refine ⟨by simp [word, Node.name?], by simp [word, Node.name?], _, .refl _, ?_⟩
    have hlimit : (word ⟨23, 1, 16⟩ "5").SameScalar (word ⟨36, 3, 16⟩ "5") :=
      ⟨_, _, _, _, _, rfl, rfl⟩
    simpa [ToolsConfig.schema, ToolsConfig.slots, Slot.text, Schema.given, Schema.names,
      Node.name?, word, Kind.scalar] using hlimit
  have hhost : (word ⟨31, 2, 6⟩ "h").SameScalar (word ⟨6, 0, 6⟩ "h") := ⟨_, _, _, _, _, rfl, rfl⟩
  refine ⟨by simp [limitEntries, word, Node.name?], by simp [turnedEntries, word, Node.name?], _,
    .swap _ _ _, ?_⟩
  have hsection : ToolsConfig.kind.Alike
      (.mapping ⟨9, 1, 2⟩ [(word ⟨9, 1, 2⟩ "timeout_secs", word ⟨23, 1, 16⟩ "5")])
      (.mapping ⟨22, 3, 2⟩ [(word ⟨22, 3, 2⟩ "timeout_secs", word ⟨36, 3, 16⟩ "5")]) :=
    .inr ⟨Node.not_isNothing_mapping, Node.not_isNothing_mapping, _, _, _, _, rfl, rfl, htools⟩
  simpa [Config.schema, Config.slots, Slot.text, Slot.number, Schema.given, Schema.names,
    turnedEntries, Node.name?, word, Kind.scalar] using And.intro hhost hsection

/-! ## 7. What settings are loaded as -/

/-- **What loading settings gives.** Of entries that fit, each setting has its value, and its
    default where it is not given; the order of the entries and other entries are of no account; and
    entries at fault give an error. -/
theorem loadConfig_described {fs : FileSystem} {env : Environment} {path : Path}
    {es : List (Node × Node)} (h : HoldsSettings fs env path es) :
    (Config.schema.Fits es → ∃ c, loadConfig fs env path = .ok c) ∧
      (∀ c, loadConfig fs env path = .ok c ↔ Config.schema.Describes {} es c) ∧
      (∀ fs' env' path' es', HoldsSettings fs' env' path' es' →
        Config.schema.Rearranged es es' →
          ∀ c, loadConfig fs env path = .ok c ↔ loadConfig fs' env' path' = .ok c) ∧
      (Config.Faulty es → ∃ e, loadConfig fs env path = .error e) := by
  refine ⟨fun hfits => ?_, fun c => loadConfig_eq_ok_iff h, ?_, fun hfaulty => ?_⟩
  · obtain ⟨c, hc⟩ := (Schema.exists_describes_iff {}).2 hfits
    exact ⟨c, (loadConfig_eq_ok_iff h).2 hc⟩
  · intro fs' env' path' es' h' hrearranged c
    rw [loadConfig_eq_ok_iff h, loadConfig_eq_ok_iff h', hrearranged.describes_iff]
  · cases hload : loadConfig fs env path with
    | error e => exact ⟨e, rfl⟩
    | ok c =>
      have hdescribes := (loadConfig_eq_ok_iff h).1 hload
      exact absurd ((Schema.exists_describes_iff {}).1 ⟨c, hdescribes⟩) hfaulty.not_fits

/-- Two files with the same two settings, and one with a setting that is given twice. -/
theorem loadConfig_described_limit :
    (∃ c,
      loadConfig (settingsFile "tools:\n  timeout_secs: 5\nhost: h\n") {} (.ofString "settings") =
        .ok c ∧
      loadConfig (settingsFile "host: h\nx: 1\ntools:\n  timeout_secs: 5\n") {}
        (.ofString "settings") = .ok c) ∧
      ∃ e, loadConfig (settingsFile "host: h\nhost: h\n") {} (.ofString "settings") = .error e := by
  obtain ⟨hfits, -, hrearranged, -⟩ := loadConfig_described limitEntries_held
  obtain ⟨-, -, -, hfaulty⟩ := loadConfig_described doubledEntries_held
  obtain ⟨c, hc⟩ := hfits limitEntries_fit
  refine ⟨⟨c, hc, (hrearranged _ _ _ _ turnedEntries_held limitEntries_rearranged c).1 hc⟩, ?_⟩
  refine hfaulty (.repeated ?_)
  simp [Config.schema, Config.slots, Slot.text, Slot.number, Schema.given, Schema.names,
    doubledEntries, Node.name?, word]

end TemplatePress
