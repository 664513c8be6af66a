import TemplatePress.Proofs.Courses
import TemplatePress.Proofs.Erasure

/-!
# The order of calls

Which tool calls a run makes, whatever the tools answer and whatever they do to the files. A logged
toolchain tells (`Toolchain.logged`). This file fixes:

* `PlannedCall`: a call together with the error that its step fails with;
* `InOrder`: planned calls are all made, or up to one that fails, or up to a point where something
  else stands in the way;
* the plan of a fetch and of a package, with the operations on files that may fail between calls,
  and that each keeps to its plan (`fetch_inOrder`, `generate_inOrder`);
* `Attempt`: one fetch or build, with the world it began in and how it ended. Attempts form a
  `Chain`, each begun in the world that the one before left;
* `RunEnds`: what was attempted before a run came to its end, for each way it can end;
* `runPipeline_inOrder`: a run is a chain of fetches, in the order of the repositories, and then one
  of builds, in the order of the folders that were found, and its log is made of their calls.
-/

namespace TemplatePress

/-! ## 1. Calls in order -/

/-- A call that succeeded. -/
def AnsweredCall.succeeded (call : ToolCall) : AnsweredCall := ⟨call, none⟩

/-- A call with the error of the step that it serves. -/
structure PlannedCall (ε : Type) where
  call : ToolCall
  wrap : ToolError → ε

/-- The log of planned calls that all succeed. -/
def PlannedCall.allSucceeded {ε : Type} (plan : List (PlannedCall ε)) : List AnsweredCall :=
  plan.map fun planned => .succeeded planned.call

/-- **Planned calls are made in order:** what was asked, and what came of it. `hinders k` tells which
    errors other than those of calls may come up when `k` calls have succeeded. -/
inductive InOrder {ε β : Type} (plan : List (PlannedCall ε)) (hinders : Nat → ε → Prop)
    (answer : β) : List AnsweredCall → Except ε β → Prop where
  /-- All calls succeed. -/
  | done : InOrder plan hinders answer (PlannedCall.allSucceeded plan) (.ok answer)
  /-- A call fails. It is the last one, and its error is that of its step. -/
  | failed {front back : List (PlannedCall ε)} {last : PlannedCall ε} (e : ToolError) :
      plan = front ++ last :: back →
      InOrder plan hinders answer (PlannedCall.allSucceeded front ++ [⟨last.call, some e⟩])
        (.error (last.wrap e))
  /-- Between calls something else stands in the way. -/
  | hindered {front back : List (PlannedCall ε)} {e : ε} : plan = front ++ back →
      hinders front.length e →
      InOrder plan hinders answer (PlannedCall.allSucceeded front) (.error e)

theorem succeeded_of_mem_allSucceeded {ε : Type} {plan : List (PlannedCall ε)} {c : AnsweredCall}
    (h : c ∈ PlannedCall.allSucceeded plan) : c.error = none := by
  obtain ⟨planned, -, rfl⟩ := List.mem_map.1 h
  rfl

/-- **A step succeeds exactly if all its calls are made and succeed**, where nothing stands in the
    way behind the last. -/
theorem InOrder.succeeded_iff {ε β : Type} {plan : List (PlannedCall ε)}
    {hinders : Nat → ε → Prop} {answer : β} {calls : List AnsweredCall} {outcome : Except ε β}
    (h : InOrder plan hinders answer calls outcome) (hlast : ∀ e, ¬ hinders plan.length e) :
    (∃ b, outcome = .ok b) ↔ calls.length = plan.length ∧ ∀ c ∈ calls, c.error = none := by
  cases h with
  | done =>
    exact ⟨fun _ => ⟨by simp [PlannedCall.allSucceeded], fun c => succeeded_of_mem_allSucceeded⟩,
      fun _ => ⟨answer, rfl⟩⟩
  | failed e hplan =>
    refine ⟨fun ⟨_, hb⟩ => (by cases hb), fun ⟨_, hnone⟩ => ?_⟩
    cases hnone _ (List.mem_append_right _ List.mem_cons_self)
  | hindered hplan hhinders =>
    refine ⟨fun ⟨_, hb⟩ => (by cases hb), fun ⟨hlen, _⟩ => ?_⟩
    rw [PlannedCall.allSucceeded, List.length_map] at hlen
    exact absurd (hlen ▸ hhinders) (hlast _)

/-- What stands in the way may be told in other words. -/
theorem InOrder.imp {ε β : Type} {plan : List (PlannedCall ε)} {hinders hinders' : Nat → ε → Prop}
    {answer : β} {calls : List AnsweredCall} {outcome : Except ε β}
    (h : InOrder plan hinders answer calls outcome) (himp : ∀ k e, hinders k e → hinders' k e) :
    InOrder plan hinders' answer calls outcome := by
  cases h with
  | done => exact .done
  | failed e hplan => exact .failed e hplan
  | hindered hplan hhinders => exact .hindered hplan (himp _ _ hhinders)

/-- Only planned calls are made. -/
theorem InOrder.exists_planned {ε β : Type} {plan : List (PlannedCall ε)}
    {hinders : Nat → ε → Prop} {answer : β} {calls : List AnsweredCall} {outcome : Except ε β}
    (h : InOrder plan hinders answer calls outcome) {c : AnsweredCall} (hc : c ∈ calls) :
    ∃ planned ∈ plan, c.call = planned.call := by
  have hfront : ∀ {front : List (PlannedCall ε)}, c ∈ PlannedCall.allSucceeded front →
      ∃ planned ∈ front, c.call = planned.call := by
    intro front hmem
    obtain ⟨planned, hplanned, rfl⟩ := List.mem_map.1 hmem
    exact ⟨planned, hplanned, rfl⟩
  cases h with
  | done => exact hfront hc
  | @failed front back last e hplan =>
    subst hplan
    rcases List.mem_append.1 hc with hc | hc
    · obtain ⟨planned, hmem, heq⟩ := hfront hc
      exact ⟨planned, List.mem_append_left _ hmem, heq⟩
    · rw [List.mem_singleton.1 hc]
      exact ⟨last, List.mem_append_right _ List.mem_cons_self, rfl⟩
  | hindered hplan _ =>
    subst hplan
    obtain ⟨planned, hmem, heq⟩ := hfront hc
    exact ⟨planned, List.mem_append_left _ hmem, heq⟩

/-- An error is that of a planned call, or of what stands in the way. -/
theorem InOrder.error_cases {ε β : Type} {plan : List (PlannedCall ε)}
    {hinders : Nat → ε → Prop} {answer : β} {calls : List AnsweredCall} {e : ε}
    (h : InOrder plan hinders answer calls (.error e)) :
    (∃ planned ∈ plan, ∃ cause, e = planned.wrap cause) ∨ ∃ made, hinders made e := by
  cases h with
  | failed cause hplan =>
    exact Or.inl ⟨_, hplan ▸ List.mem_append_right _ List.mem_cons_self, cause, rfl⟩
  | hindered _ hhinders => exact Or.inr ⟨_, hhinders⟩

section Logged

variable {σ : Type} {tools : Toolchain σ} {call : ToolCall} {w w' : World (Logged σ)}

/-- **Every call is logged with its answer.** -/
theorem log_of_run (tools : Toolchain σ) (call : ToolCall) (w : World (Logged σ)) :
    (∃ w', tools.logged.run call w = .ok () w' ∧
        w'.tools.log = w.tools.log ++ [.succeeded call]) ∨
      ∃ e w', tools.logged.run call w = .error e w' ∧
        w'.tools.log = w.tools.log ++ [⟨call, some e⟩] := by
  simp only [Toolchain.logged]
  cases tools.run call ⟨w.files, w.tools.inner⟩ with
  | ok _ w₁ => exact Or.inl ⟨_, rfl, rfl⟩
  | error e w₁ => exact Or.inr ⟨e, _, rfl, rfl⟩

end Logged

/-! ## 2. Fetching -/

/-- The calls of a fetch: the clone, and the checkout if a reference is set. -/
def RepositoryRef.plan (r : RepositoryRef) (layout : Layout) (host : String) :
    List (PlannedCall FetchError) :=
  ⟨.clone (r.cloneUrl host) (layout.cloneDir r), .clone r.display⟩ ::
    r.reference.toList.map fun reference =>
      ⟨.checkout (layout.cloneDir r) reference, .checkout r.display reference⟩

/-- What else stands in the way of a fetch, before its first call: a reference that is not well
    formed, or a removal of what stands in its place that fails in the files it begins with. -/
def RepositoryRef.Hinders (r : RepositoryRef) (layout : Layout) (begun : FileSystem) (made : Nat)
    (e : FetchError) : Prop :=
  made = 0 ∧ (r.isWellFormed = false ∧ e = .invalidRepository r.display ∨
    r.isWellFormed = true ∧ ∃ source fs,
      FileSystem.removeIfPresent (layout.cloneDir r) begun = .error source fs ∧
        e = .clean (layout.cloneDir r) source)

section Fetch

variable {σ : Type} (tools : Toolchain σ) (layout : Layout) (host : String) (r : RepositoryRef)
  (w : World (Logged σ))

theorem checkoutReference_eq {reference : String} (h : r.reference = some reference)
    (clone : Path) : checkoutReference tools.logged r clone w =
      match tools.logged.run (.checkout clone reference) w with
      | .ok () w' => .ok () w'
      | .error e w' => .error (.checkout r.display reference e) w' := by
  simp only [checkoutReference, h]
  cases tools.logged.run (.checkout clone reference) w <;> rfl

/-- **A fetch keeps to its plan.** -/
theorem fetch_inOrder :
    ∃ made, (Disk.left (fetch tools.logged layout host r w)).tools.log = w.tools.log ++ made ∧
      InOrder (r.plan layout host) (r.Hinders layout w.files) (layout.cloneDir r) made
        (Disk.outcome (fetch tools.logged layout host r w)) := by
  unfold fetch
  by_cases hwell : r.isWellFormed = true
  case neg =>
    rw [if_neg hwell]
    exact ⟨[], by simp, .hindered (rfl : _ = [] ++ _) ⟨rfl, Or.inl ⟨by simpa using hwell, rfl⟩⟩⟩
  rw [if_pos hwell]
  simp only [World.onFiles]
  cases hclean : FileSystem.removeIfPresent (layout.cloneDir r) w.files with
  | error e fs =>
    exact ⟨[], by simp,
      .hindered (rfl : _ = [] ++ _) ⟨rfl, Or.inr ⟨hwell, e, fs, hclean, rfl⟩⟩⟩
  | ok _ fs =>
    simp only
    rcases log_of_run tools (.clone (r.cloneUrl host) (layout.cloneDir r)) { w with files := fs }
      with ⟨w₁, hclone, hlog₁⟩ | ⟨e, w₁, hclone, hlog₁⟩ <;> rw [hclone]
    case inr => exact ⟨_, hlog₁, .failed e (rfl : _ = [] ++ _ :: _)⟩
    cases href : r.reference with
    | none =>
      have hplan : r.plan layout host =
          [⟨.clone (r.cloneUrl host) (layout.cloneDir r), .clone r.display⟩] := by
        simp [RepositoryRef.plan, href]
      simp only [checkoutReference, href]
      rw [hplan]
      exact ⟨_, hlog₁, .done⟩
    | some reference =>
      have hplan : r.plan layout host =
          [⟨.clone (r.cloneUrl host) (layout.cloneDir r), .clone r.display⟩,
            ⟨.checkout (layout.cloneDir r) reference, .checkout r.display reference⟩] := by
        simp [RepositoryRef.plan, href]
      simp only [checkoutReference_eq tools r w₁ href]
      rw [hplan]
      rcases log_of_run tools (.checkout (layout.cloneDir r) reference) w₁ with
        ⟨w₂, hcheckout, hlog₂⟩ | ⟨e, w₂, hcheckout, hlog₂⟩ <;>
        rw [hlog₁, List.append_assoc] at hlog₂ <;> rw [hcheckout]
      · exact ⟨_, hlog₂, .done⟩
      · exact ⟨_, hlog₂, .failed e (rfl : _ = [_] ++ _ :: _)⟩

end Fetch

/-! ## 3. Building -/

/-- The calls that fill a package from a folder. -/
def PackagePaths.plan (paths : PackagePaths) (options : PackageOptions) (folder : Path) :
    List (PlannedCall PackageError) :=
  [⟨.copyTree folder paths.typst, .copySource paths.typst⟩,
    ⟨.compile paths.entryDocument paths.document, .compile paths.entryDocument⟩,
    ⟨.rasterize paths.document options.previewPage options.previewDpi paths.preview,
      .rasterize paths.document⟩]

section Hinders

variable {σ : Type} (tools : Toolchain σ) (layout : Layout) (options : PackageOptions)

/-- What else stands in the way of filling a package that is prepared: behind its first call, a copy
    of the metadata that fails in the files which that call left. -/
def PackagePaths.HindersFilling (paths : PackagePaths) (folder : Path) (prepared : World σ)
    (made : Nat) (e : PackageError) : Prop :=
  made = 1 ∧ ∃ copied source, tools.run (.copyTree folder paths.typst) prepared = .ok () copied ∧
    copied.files.copyFile layout.referenceMetadata paths.metadata = .error source ∧
    e = .copyMetadata layout.referenceMetadata paths.metadata source

/-- What else stands in the way of a package: before the first call, a place that cannot be prepared
    in the files it begins with, and behind that what stands in the way of filling it. -/
def PackagePaths.Hinders (paths : PackagePaths) (folder : Path) (begun : World σ) (made : Nat)
    (e : PackageError) : Prop :=
  (made = 0 ∧ ∃ source fs, Package.prepare paths.dir begun.files = .error source fs ∧
      e = .prepare paths.dir source) ∨
    ∃ fs, Package.prepare paths.dir begun.files = .ok () fs ∧
      paths.HindersFilling tools layout folder { begun with files := fs } made e

/-- **What is asked for a folder, and what came of it**, from the world that its build begins in. -/
inductive BuildInOrder (folder : TemplateFolder) (begun : World σ) :
    List AnsweredCall → Except PackageError TemplatePackage → Prop where
  | unnamed : folder.name? = none →
      BuildInOrder folder begun [] (.error (.unnamedFolder folder.path))
  | reserved : folder.name? = some (Text.Utf8.bytes Layout.referencePackage) →
      BuildInOrder folder begun [] (.error (.reservedName folder.path))
  | planned {name : Name} {calls : List AnsweredCall}
      {outcome : Except PackageError TemplatePackage} : folder.Builds name →
      InOrder ((layout.package name options.entryPoint).plan options folder.path)
        ((layout.package name options.entryPoint).Hinders tools layout folder.path begun)
        (Package.report name (layout.package name options.entryPoint)) calls outcome →
      BuildInOrder folder begun calls outcome

end Hinders

/-- **A package is built exactly if its three calls succeed.** -/
theorem BuildInOrder.succeeded_iff {σ : Type} {tools : Toolchain σ} {layout : Layout}
    {options : PackageOptions} {folder : TemplateFolder} {begun : World σ}
    {calls : List AnsweredCall} {outcome : Except PackageError TemplatePackage}
    (h : BuildInOrder tools layout options folder begun calls outcome) :
    (∃ package, outcome = .ok package) ↔ calls.length = 3 ∧ ∀ c ∈ calls, c.error = none := by
  cases h with
  | unnamed => simp
  | reserved => simp
  | planned _ h => exact h.succeeded_iff (by rintro e (⟨⟨⟩, -⟩ | ⟨-, -, ⟨⟩, -⟩))

section Build

variable {σ : Type} (tools : Toolchain σ) (layout : Layout) (options : PackageOptions)

theorem log_of_ask (call : ToolCall) (wrap : ToolError → PackageError) (w : World (Logged σ)) :
    (∃ w', Package.ask tools.logged call wrap w = .ok () w' ∧
        w'.tools.log = w.tools.log ++ [.succeeded call]) ∨
      ∃ e w', Package.ask tools.logged call wrap w = .error (wrap e) w' ∧
        w'.tools.log = w.tools.log ++ [⟨call, some e⟩] := by
  rcases log_of_run tools call w with ⟨w', h, hlog⟩ | ⟨e, w', h, hlog⟩
  · exact Or.inl ⟨w', by rw [Package.ask, h], hlog⟩
  · exact Or.inr ⟨e, w', by rw [Package.ask, h], hlog⟩

theorem run_of_ask {tools : Toolchain σ} {call : ToolCall} {wrap : ToolError → PackageError}
    {w w' : World σ} (h : Package.ask tools call wrap w = .ok () w') :
    tools.run call w = .ok () w' := by
  unfold Package.ask at h
  split at h <;> cases h
  assumption

/-- Filling a package keeps to the plan. -/
theorem fill_inOrder {β : Type} (answer : β) (folder : Path) (paths : PackagePaths)
    (w : World (Logged σ)) :
    ∃ made, (Disk.left (Package.fill tools.logged layout options folder paths w)).tools.log =
        w.tools.log ++ made ∧
      InOrder (paths.plan options folder)
        (paths.HindersFilling tools.logged layout folder w) answer made
        ((Disk.outcome (Package.fill tools.logged layout options folder paths w)).map
          fun _ => answer) := by
  simp only [Package.fill, bind, EStateM.bind]
  rcases log_of_ask tools (.copyTree folder paths.typst) (.copySource paths.typst) w with
    ⟨w₁, hcopy, hlog₁⟩ | ⟨e, w₁, hcopy, hlog₁⟩ <;> rw [hcopy]
  case inr => exact ⟨_, hlog₁, .failed e (rfl : _ = [] ++ _ :: _)⟩
  cases hmeta : w₁.files.copyFile layout.referenceMetadata paths.metadata with
  | error e =>
    simp only [World.onFiles, Disk.change, hmeta]
    exact ⟨_, hlog₁, .hindered (rfl : _ = [_] ++ _) ⟨rfl, w₁, e, run_of_ask hcopy, hmeta, rfl⟩⟩
  | ok fs =>
    simp only [World.onFiles, Disk.change, hmeta]
    rcases log_of_ask tools (.compile paths.entryDocument paths.document)
      (.compile paths.entryDocument) { w₁ with files := fs } with
      ⟨w₂, hcompile, hlog₂⟩ | ⟨e, w₂, hcompile, hlog₂⟩ <;>
      rw [hlog₁, List.append_assoc] at hlog₂ <;> rw [hcompile]
    case inr => exact ⟨_, hlog₂, .failed e (rfl : _ = [_] ++ _ :: _)⟩
    simp only
    rcases log_of_ask tools
      (.rasterize paths.document options.previewPage options.previewDpi paths.preview)
      (.rasterize paths.document) w₂ with
      ⟨w₃, hdraw, hlog₃⟩ | ⟨e, w₃, hdraw, hlog₃⟩ <;>
      rw [hlog₂, List.append_assoc] at hlog₃ <;> rw [hdraw]
    · exact ⟨_, hlog₃, .done⟩
    · exact ⟨_, hlog₃, .failed e (rfl : _ = [_, _] ++ _ :: _)⟩

/-- **A build keeps to its plan.** -/
theorem generate_inOrder (folder : TemplateFolder) (w : World (Logged σ)) :
    ∃ made, (Disk.left (generate tools.logged layout options folder w)).tools.log =
        w.tools.log ++ made ∧
      BuildInOrder tools.logged layout options folder w made
        (Disk.outcome (generate tools.logged layout options folder w)) := by
  cases hname : folder.name? with
  | none =>
    simp only [generate, hname]
    exact ⟨[], by simp, .unnamed hname⟩
  | some name =>
    by_cases hres : name = Text.Utf8.bytes Layout.referencePackage
    · simp only [generate, hname, if_pos hres]
      exact ⟨[], by simp, .reserved (hres ▸ hname)⟩
    have hb : folder.Builds name := ⟨hname, hres⟩
    simp only [generate, hname, if_neg hres, World.onFiles]
    cases hprepare : Package.prepare (layout.package name options.entryPoint).dir w.files with
    | error e fs =>
      exact ⟨[], by simp, .planned hb
        (.hindered (rfl : _ = [] ++ _) (Or.inl ⟨rfl, e, fs, hprepare, rfl⟩))⟩
    | ok _ fs =>
      simp only
      obtain ⟨made, hlog, hmade⟩ := fill_inOrder tools layout options
        (Package.report name (layout.package name options.entryPoint)) folder.path
        (layout.package name options.entryPoint) { w with files := fs }
      refine ⟨made, ?_, .planned hb (InOrder.imp ?_ fun k e hfilling =>
        Or.inr ⟨fs, hprepare, hfilling⟩)⟩
      · rw [← hlog]
        split <;> rename_i heq <;> rw [heq] <;> rfl
      · revert hmade
        split <;> rename_i heq <;> rw [heq] <;> exact id

end Build

/-! ## 4. Attempts -/

/-- What was tried for a repository or a folder: the world it began in, the calls, and how it
    ended. -/
structure Attempt (σ α ε β : Type) where
  subject : α
  begun : World (Logged σ)
  calls : List AnsweredCall
  ended : EStateM.Result ε (World (Logged σ)) β

namespace Attempt

variable {σ α ε β : Type}

/-- What came of an attempt. -/
def outcome (a : Attempt σ α ε β) : Except ε β :=
  Disk.outcome a.ended

/-- The log of attempts that follow one another. -/
def log (attempts : List (Attempt σ α ε β)) : List AnsweredCall :=
  attempts.flatMap Attempt.calls

/-- The attempt has an answer. -/
def Succeeded (a : Attempt σ α ε β) : Prop :=
  ∃ answer, a.outcome = .ok answer

/-- The attempt is what an action comes to, and its calls are those that were logged meanwhile. -/
structure IsOf (act : α → EStateM ε (World (Logged σ)) β) (a : Attempt σ α ε β) : Prop where
  ended : act a.subject a.begun = a.ended
  calls : (Disk.left a.ended).tools.log = a.begun.tools.log ++ a.calls

/-- **Attempts at an action follow one another:** each begins in the world that the one before
    left. -/
inductive Chain (act : α → EStateM ε (World (Logged σ)) β) :
    List (Attempt σ α ε β) → World (Logged σ) → World (Logged σ) → Prop where
  | nil (w : World (Logged σ)) : Chain act [] w w
  | cons {a : Attempt σ α ε β} {rest : List (Attempt σ α ε β)} {w' : World (Logged σ)} :
      a.IsOf act → Chain act rest (Disk.left a.ended) w' → Chain act (a :: rest) a.begun w'

section Chain

variable {act : α → EStateM ε (World (Logged σ)) β} {attempts : List (Attempt σ α ε β)}
  {w w' : World (Logged σ)}

theorem Chain.isOf (h : Chain act attempts w w') : ∀ a ∈ attempts, a.IsOf act := by
  induction h with
  | nil => exact nofun
  | cons ha _ ih => exact List.forall_mem_cons.2 ⟨ha, ih⟩

/-- **What is logged from end to end are the calls of all attempts.** -/
theorem Chain.log_eq (h : Chain act attempts w w') :
    w'.tools.log = w.tools.log ++ log attempts := by
  induction h with
  | nil => exact (List.append_nil _).symm
  | cons ha _ ih =>
    rw [ih, ha.calls, List.append_assoc]
    rfl

end Chain

/-- All attempts succeeded. -/
def AllSucceeded (attempts : List (Attempt σ α ε β)) : Prop :=
  ∀ a ∈ attempts, a.Succeeded

/-- The last attempt failed, and those before it succeeded. -/
def FailedLast (attempts : List (Attempt σ α ε β)) (subject : α) (e : ε) : Prop :=
  ∃ front last, attempts = front ++ [last] ∧ last.subject = subject ∧ last.outcome = .error e ∧
    AllSucceeded front

theorem AllSucceeded.nil : AllSucceeded ([] : List (Attempt σ α ε β)) :=
  List.forall_mem_nil _

theorem AllSucceeded.cons {first : Attempt σ α ε β} {rest : List (Attempt σ α ε β)}
    (h : first.Succeeded) (hr : AllSucceeded rest) : AllSucceeded (first :: rest) :=
  List.forall_mem_cons.2 ⟨h, hr⟩

theorem FailedLast.single {a : Attempt σ α ε β} {e : ε} (h : a.outcome = .error e) :
    FailedLast [a] a.subject e :=
  ⟨[], a, rfl, rfl, h, .nil⟩

theorem FailedLast.cons {first : Attempt σ α ε β} {rest : List (Attempt σ α ε β)}
    (h : first.Succeeded) {subject : α} {e : ε} (hr : FailedLast rest subject e) :
    FailedLast (first :: rest) subject e := by
  obtain ⟨front, last, rfl, hsubject, houtcome, hfront⟩ := hr
  exact ⟨first :: front, last, rfl, hsubject, houtcome, hfront.cons h⟩

end Attempt

/-- The attempts of a run to fetch. -/
abbrev FetchAttempt (σ : Type) := Attempt σ RepositoryRef FetchError Path

/-- The attempts of a run to build. -/
abbrev BuildAttempt (σ : Type) := Attempt σ TemplateFolder PackageError TemplatePackage

section Attempts

variable {σ : Type} {tools : Toolchain σ} {layout : Layout}

/-- The calls of an attempt to fetch are in order. -/
def FetchAttempt.IsInOrder (layout : Layout) (host : String) (a : FetchAttempt σ) : Prop :=
  InOrder (a.subject.plan layout host) (a.subject.Hinders layout a.begun.files)
    (layout.cloneDir a.subject) a.calls a.outcome

/-- The calls of an attempt to build are in order. -/
def BuildAttempt.IsInOrder (tools : Toolchain σ) (layout : Layout) (options : PackageOptions)
    (a : BuildAttempt σ) : Prop :=
  BuildInOrder tools.logged layout options a.subject a.begun a.calls a.outcome

theorem FetchAttempt.isInOrder {host : String} {a : FetchAttempt σ}
    (h : a.IsOf (fetch tools.logged layout host)) : FetchAttempt.IsInOrder layout host a := by
  obtain ⟨made, hlog, hmade⟩ := fetch_inOrder tools layout host a.subject a.begun
  rw [h.ended, h.calls] at hlog
  rw [h.ended, ← List.append_cancel_left hlog] at hmade
  exact hmade

theorem BuildAttempt.isInOrder {options : PackageOptions} {a : BuildAttempt σ}
    (h : a.IsOf (generate tools.logged layout options)) :
    BuildAttempt.IsInOrder tools layout options a := by
  obtain ⟨made, hlog, hmade⟩ := generate_inOrder tools layout options a.subject a.begun
  rw [h.ended, h.calls] at hlog
  rw [h.ended, ← List.append_cancel_left hlog] at hmade
  exact hmade

/-- The folders of attempts with what came of each. -/
def BuildAttempt.course (attempts : List (BuildAttempt σ)) : Course :=
  attempts.map fun a => (a.subject, a.outcome)

open Attempt (Chain AllSucceeded FailedLast)

/-- **How fetching ends:** with all repositories, or with the first that fails. -/
def FetchesEnd (repositories : List RepositoryRef) (fetches : List (FetchAttempt σ)) :
    Except FetchError Unit → Prop
  | .ok () => fetches.map (·.subject) = repositories ∧ AllSucceeded fetches
  | .error e => fetches.map (·.subject) <+: repositories ∧ ∃ r, FailedLast fetches r e

/-- Fetching ends behind a fetch that succeeds as it ends for the other repositories. -/
theorem FetchesEnd.cons {first : FetchAttempt σ} (hfirst : first.Succeeded)
    {repositories : List RepositoryRef} {fetches : List (FetchAttempt σ)}
    {outcome : Except FetchError Unit} (h : FetchesEnd repositories fetches outcome) :
    FetchesEnd (first.subject :: repositories) (first :: fetches) outcome := by
  cases outcome with
  | ok =>
    obtain ⟨hsubjects, hsucceeded⟩ := h
    exact ⟨by simp [hsubjects], hsucceeded.cons hfirst⟩
  | error e =>
    obtain ⟨hsubjects, r, hfailed⟩ := h
    exact ⟨by simpa using hsubjects, r, hfailed.cons hfirst⟩

/-- **How building ends:** with all folders, with the first that fails if the run does not keep
    going, or before a folder whose line cannot be written. -/
def BuildsEnd (folders : List TemplateFolder) (keepGoing : Bool) (before : Course)
    (builds : List (BuildAttempt σ)) : Except PipelineError PipelineReport → Prop
  | .ok report =>
    builds.map (·.subject) = folders ∧ Course.Reports (before ++ BuildAttempt.course builds) report ∧
      (keepGoing = false → AllSucceeded builds)
  | .error (.generate folder e) =>
    builds.map (·.subject) <+: folders ∧ FailedLast builds folder e ∧ keepGoing = false
  | .error (.output _) =>
    (∃ folder, builds.map (·.subject) ++ [folder] <+: folders) ∧
      (keepGoing = false → AllSucceeded builds)
  | .error (.fetch _) => False
  | .error (.discovery _) => False

/-- Building ends behind a folder that does not stop it as it ends for the other folders. -/
theorem BuildsEnd.cons {first : BuildAttempt σ} {keepGoing : Bool}
    (hfirst : keepGoing = false → first.Succeeded) {folders : List TemplateFolder}
    {before : Course} {builds : List (BuildAttempt σ)}
    {outcome : Except PipelineError PipelineReport}
    (h : BuildsEnd folders keepGoing (before ++ [(first.subject, first.outcome)]) builds outcome) :
    BuildsEnd (first.subject :: folders) keepGoing before (first :: builds) outcome := by
  match outcome, h with
  | .ok report, ⟨hsubjects, hreports, hsucceeded⟩ =>
    exact ⟨by simp [hsubjects], by simpa [BuildAttempt.course] using hreports,
      fun hnot => (hsucceeded hnot).cons (hfirst hnot)⟩
  | .error (.generate folder e), ⟨hsubjects, hfailed, hnot⟩ =>
    exact ⟨by simpa using hsubjects, hfailed.cons (hfirst hnot), hnot⟩
  | .error (.output e), ⟨⟨next, hsubjects⟩, hsucceeded⟩ =>
    exact ⟨⟨next, by simpa using hsubjects⟩, fun hnot => (hsucceeded hnot).cons (hfirst hnot)⟩

/-- **How a run ends**, where a search after the fetches finds `found`: with a fetch that fails, with
    a search that fails, or as building ends. -/
def RunEnds (config : Config) (found : Except DiscoveryError (List TemplateFolder))
    (fetches : List (FetchAttempt σ)) (builds : List (BuildAttempt σ)) :
    Except PipelineError PipelineReport → Prop
  | .error (.fetch e) => FetchesEnd config.repositories fetches (.error e) ∧ builds = []
  | .error (.discovery e) =>
    FetchesEnd config.repositories fetches (.ok ()) ∧ found = .error e ∧ builds = []
  | outcome =>
    FetchesEnd config.repositories fetches (.ok ()) ∧
      ∃ folders, found = .ok folders ∧ BuildsEnd folders config.keepGoing [] builds outcome

end Attempts

/-! ## 5. Runs -/

section Runs

open Attempt (Chain AllSucceeded FailedLast)

variable {σ ω : Type} (tools : Toolchain σ) (writer : Writer ω) (layout : Layout)

/-- **Fetching is a chain of fetches**, up to the first that fails. -/
theorem fetchAll_inOrder (host : String) (repositories : List RepositoryRef)
    (w : World (Logged σ)) :
    ∃ fetches : List (FetchAttempt σ),
      Chain (fetch tools.logged layout host) fetches w
          (Disk.left (fetchAll tools.logged layout host repositories w)) ∧
        FetchesEnd repositories fetches
          (Disk.outcome (fetchAll tools.logged layout host repositories w)) := by
  induction repositories generalizing w with
  | nil => exact ⟨[], .nil w, rfl, .nil⟩
  | cons r rest ih =>
    obtain ⟨made, hlog, -⟩ := fetch_inOrder tools layout host r w
    let first : FetchAttempt σ := ⟨r, w, made, fetch tools.logged layout host r w⟩
    have hfirst : first.IsOf (fetch tools.logged layout host) := ⟨rfl, hlog⟩
    unfold fetchAll
    cases hfetch : fetch tools.logged layout host r w with
    | error e w₁ =>
      have hleft : Disk.left first.ended = w₁ := congrArg Disk.left hfetch
      have hfailed : first.outcome = .error e := congrArg Disk.outcome hfetch
      exact ⟨[first], .cons hfirst (hleft ▸ .nil _), by simp [first], r, .single hfailed⟩
    | ok path w₁ =>
      have hleft : Disk.left first.ended = w₁ := congrArg Disk.left hfetch
      have hsucceeded : first.outcome = .ok path := congrArg Disk.outcome hfetch
      obtain ⟨fetches, hchain, hend⟩ := ih w₁
      exact ⟨first :: fetches, .cons hfirst (hleft ▸ hchain), hend.cons ⟨path, hsucceeded⟩⟩

/-- **Building is a chain of builds**, and what they come to is reported. -/
theorem buildOnto_inOrder (options : PackageOptions) (keepGoing : Bool)
    (folders : List TemplateFolder) {report : PipelineReport} {before : Course}
    (hreport : before.Reports report) (run : Run (Logged σ) ω) :
    ∃ builds : List (BuildAttempt σ),
      Chain (generate tools.logged layout options) builds run.world
          (Disk.left (Pipeline.buildOnto tools.logged writer layout options keepGoing folders report
            run)).world ∧
        BuildsEnd folders keepGoing before builds (Disk.outcome
          (Pipeline.buildOnto tools.logged writer layout options keepGoing folders report run)) := by
  induction folders generalizing report before run with
  | nil => exact ⟨[], .nil _, rfl, by simpa [BuildAttempt.course] using hreport,
      fun _ => .nil⟩
  | cons folder rest ih =>
    obtain ⟨made, hlog, -⟩ := generate_inOrder tools layout options folder run.world
    let first : BuildAttempt σ :=
      ⟨folder, run.world, made, generate tools.logged layout options folder run.world⟩
    have hfirst : first.IsOf (generate tools.logged layout options) := ⟨rfl, hlog⟩
    unfold Pipeline.buildOnto
    cases hone : Pipeline.buildOne tools.logged writer layout options keepGoing folder report run with
    | error e run₁ =>
      rcases buildOne_eq_error hone with ⟨e', rfl, hworld⟩ | ⟨e', hg, rfl, hkeep⟩
      · exact ⟨[], hworld ▸ .nil _, ⟨folder, by simp⟩, fun _ => .nil⟩
      · have hleft : Disk.left first.ended = run₁.world := congrArg Disk.left hg
        have hfailed : first.outcome = .error e' := congrArg Disk.outcome hg
        exact ⟨[first], .cons hfirst (hleft ▸ .nil _), by simp [first], .single hfailed, hkeep⟩
    | ok report₁ run₁ =>
      -- one step adds an attempt, which failed only if the run keeps going
      obtain ⟨hleft, hreport₁, hkeep⟩ : Disk.left first.ended = run₁.world ∧
          Course.Reports (before ++ [(folder, first.outcome)]) report₁ ∧
          (keepGoing = false → first.Succeeded) := by
        rcases buildOne_eq_ok hone with ⟨package, hg, rfl⟩ | ⟨e, hg, rfl, hkeep⟩
        · have hbuilt : first.outcome = .ok package := congrArg Disk.outcome hg
          exact ⟨congrArg Disk.left hg, hbuilt ▸ hreport.built folder package,
            fun _ => ⟨package, hbuilt⟩⟩
        · have hfailed : first.outcome = .error e := congrArg Disk.outcome hg
          exact ⟨congrArg Disk.left hg, hfailed ▸ hreport.notBuilt folder e,
            fun hnot => by simp [hnot] at hkeep⟩
      obtain ⟨builds, hchain, hend⟩ := ih hreport₁ run₁
      exact ⟨first :: builds, .cons hfirst (hleft ▸ hchain), BuildsEnd.cons hkeep hend⟩

/-- **The calls of a run** are those for the repositories, in order, and then those for the folders
    that the search found, in order, whatever the tools answer and do to the files. Each attempt is
    the fetch or the build of its subject in the world that the attempt before it left, and keeps to
    its plan. A package is built exactly if its three calls succeed, and how the run ends tells how
    far it came. Without the log the run is the same. -/
theorem runPipeline_inOrder (config : Config) (run : Run (Logged σ) ω) :
    let layout : Layout := ⟨config.templatesRoot⟩
    let fetched := Disk.left
      (fetchAll tools.logged layout config.host config.repositories run.world)
    let ended := runPipeline tools.logged writer config run
    Agree (fun a b => a.unlogged = b) ended (runPipeline tools writer config run.unlogged) ∧
      ∃ (fetches : List (FetchAttempt σ)) (builds : List (BuildAttempt σ)),
        (Disk.left ended).world.tools.log =
            run.world.tools.log ++ Attempt.log fetches ++ Attempt.log builds ∧
          Chain (fetch tools.logged layout config.host) fetches run.world fetched ∧
          Chain (generate tools.logged layout config.packageOptions) builds fetched
            (Disk.left ended).world ∧
          (∀ a ∈ fetches, FetchAttempt.IsInOrder layout config.host a) ∧
          (∀ a ∈ builds, BuildAttempt.IsInOrder tools layout config.packageOptions a ∧
            (a.Succeeded ↔ a.calls.length = 3 ∧ ∀ c ∈ a.calls, c.error = none)) ∧
          RunEnds config (discover fetched.files layout.reposDir config.entryPoint) fetches builds
            (Disk.outcome ended) := by
  intro layout fetched ended
  obtain ⟨fetches, hfetches, hend⟩ := fetchAll_inOrder tools layout config.host
    config.repositories run.world
  -- the log, and that each attempt keeps to its plan, follow from the chains
  suffices h : ∃ builds : List (BuildAttempt σ),
      Chain (generate tools.logged layout config.packageOptions) builds fetched
          (Disk.left ended).world ∧
        RunEnds config (discover fetched.files layout.reposDir config.entryPoint) fetches builds
          (Disk.outcome ended) by
    obtain ⟨builds, hbuilds, hends⟩ := h
    refine ⟨runPipelineBy_erases (logged_erases tools) (.refl writer) _ config run, fetches, builds,
      by rw [hbuilds.log_eq, hfetches.log_eq], hfetches, hbuilds,
      fun a ha => FetchAttempt.isInOrder (hfetches.isOf a ha), fun a ha => ?_, hends⟩
    have hinOrder := BuildAttempt.isInOrder (hbuilds.isOf a ha)
    exact ⟨hinOrder, hinOrder.succeeded_iff⟩
  simp only [ended, fetched, runPipeline_eq, buildFound]
  cases hfetch : fetchAll tools.logged layout config.host config.repositories run.world with
  | error e w =>
    rw [hfetch] at hend
    exact ⟨[], .nil _, hend, rfl⟩
  | ok _ w =>
    rw [hfetch] at hend
    simp only [Disk.left_ok]
    cases hfound : discover w.files layout.reposDir config.entryPoint with
    | error e => exact ⟨[], .nil _, hend, rfl, rfl⟩
    | ok folders =>
      obtain ⟨builds, hbuilds, hends⟩ := buildOnto_inOrder tools writer layout
        config.packageOptions config.keepGoing folders Course.Reports.nil { run with world := w }
      refine ⟨builds, hbuilds, ?_⟩
      revert hends
      simp only [generateAll]
      cases Disk.outcome (Pipeline.buildOnto tools.logged writer layout config.packageOptions
        config.keepGoing folders {} { run with world := w }) with
      | ok report => exact fun hends => ⟨hend, folders, rfl, hends⟩
      | error e =>
        cases e with
        | generate failed e => exact fun hends => ⟨hend, folders, rfl, hends⟩
        | output e => exact fun hends => ⟨hend, folders, rfl, hends⟩
        | fetch e => exact fun hends => hends.elim
        | discovery e => exact fun hends => hends.elim

end Runs

end TemplatePress
