import TemplatePress.Config.Load
import TemplatePress.Proofs.Encodings
import TemplatePress.Proofs.Frames
import TemplatePress.Proofs.Numerals
import TemplatePress.Proofs.Records

/-!
# Settings from the environment

Two variables replace what a file says: the root of the templates and the time limit of the tools.
This file fixes:

* `Config.IsSeconds`: the bytes that give a time limit, and the number that they give;
* `Config.Layered`: the settings under an environment are those without the two variables, with what
  the variables say put over them;
* `resolveConfig_layered_iff`: so they are exactly if every variable that is looked at is a text; a
  variable that is no text is passed over (`resolveConfig_passesOver_root`).
-/

namespace TemplatePress

open Yaml (Decode)

/-! ## 1. Variables -/

namespace Environment

theorem get?_unset_of_ne (env : Environment) {name other : String} (h : other ≠ name) :
    (env.unset name).get? other = env.get? other := by
  have hp : (fun v : String × Bytes => decide ((v.1 != name) = true ∧ (v.1 == other) = true)) =
      fun v => v.1 == other := by
    funext v
    by_cases hv : v.1 = other <;> simp [hv, h]
  simp only [get?, unset, List.find?_filter, hp]

/-- A variable is a text, or it is not set. -/
def IsReadable (env : Environment) (name : String) : Prop :=
  ∀ value, env.get? name = some value → ∃ text, value = Text.Utf8.bytes text

theorem text?_eq_some_iff {env : Environment} {name text : String} :
    env.text? name = some text ↔ env.get? name = some (Text.Utf8.bytes text) := by
  rw [text?, Option.bind_eq_some_iff]
  constructor
  · rintro ⟨value, hvalue, htext⟩
    rw [hvalue, Text.Utf8.decode?_eq_some_iff.1 htext]
  · exact fun h => ⟨_, h, Text.Utf8.decode?_eq_some_iff.2 rfl⟩

theorem text?_eq_none_of_get? {env : Environment} {name : String} (h : env.get? name = none) :
    env.text? name = none := by
  rw [text?, h, Option.bind_none]

/-- A variable that is no text counts as one that is not set. -/
theorem text?_eq_none_iff {env : Environment} {name : String} (h : env.IsReadable name) :
    env.text? name = none ↔ env.get? name = none := by
  refine ⟨fun htext => ?_, text?_eq_none_of_get?⟩
  cases hvalue : env.get? name with
  | none => rfl
  | some value =>
    obtain ⟨text, rfl⟩ := h value hvalue
    rw [text?_eq_some_iff.2 hvalue] at htext
    cases htext

theorem text?_eq_none_of_not_readable {env : Environment} {name : String}
    (h : ¬ env.IsReadable name) : env.text? name = none := by
  refine Option.eq_none_iff_forall_ne_some.2 fun text htext => h fun value hvalue => ⟨text, ?_⟩
  exact Option.some.inj (hvalue.symm.trans (text?_eq_some_iff.1 htext))

end Environment

namespace Config

theorem rootVariable_ne : rootVariable ≠ timeoutVariable := by decide

/-- An environment without the two variables. -/
def bareEnvironment (env : Environment) : Environment :=
  (env.unset rootVariable).unset timeoutVariable

theorem override_bareEnvironment (env : Environment) (c : Config) :
    override (bareEnvironment env) c = .ok c := by
  have hroot : (bareEnvironment env).get? rootVariable = none := by
    rw [bareEnvironment, Environment.get?_unset_of_ne _ rootVariable_ne,
      Environment.get?_unset_self]
  have htimeout : (bareEnvironment env).get? timeoutVariable = none :=
    Environment.get?_unset_self _ _
  simp only [override, overrideRoot, overrideTimeout,
    Environment.text?_eq_none_of_get? hroot, Environment.text?_eq_none_of_get? htimeout]

/-! ## 2. Time limits -/

/-- The bytes are decimal digits, one at least, behind a plus sign or none, and their value is a
    number of 64 bits. -/
def IsSeconds (value : Bytes) (n : Nat) : Prop :=
  ∃ digits : List Char,
    (value = Text.Utf8.bytes (String.ofList digits) ∨
      value = Text.Utf8.bytes (String.ofList ('+' :: digits))) ∧
    digits ≠ [] ∧ (∀ c ∈ digits, c.isDigit = true) ∧
    n = Nat.ofDigits 10 (digits.map fun c => c.toNat - '0'.toNat).reverse ∧ n < 2 ^ 64

/-- **A variable gives a time limit exactly if it is written as a number of seconds.** -/
theorem isSeconds_bytes {text : String} {n : Nat} : IsSeconds (Text.Utf8.bytes text) n ↔
    Number.readUnsigned 10 Number.max64 text.toList = .ok n := by
  have hlist (cs : List Char) : Text.Utf8.bytes text = Text.Utf8.bytes (String.ofList cs) ↔
      text.toList = cs := by
    rw [bytes_injective.eq_iff, ← String.toList_inj, String.toList_ofList]
  rw [Number.readUnsigned_eq_ok_iff]
  simp only [IsSeconds, hlist, Number.spells_ten_iff, Number.le_max64_iff, and_assoc]

/-- What is no text is no number of seconds. -/
theorem IsSeconds.readable {value : Bytes} {n : Nat} (h : IsSeconds value n) :
    ∃ text, value = Text.Utf8.bytes text := by
  obtain ⟨digits, h | h, -⟩ := h
  · exact ⟨_, h⟩
  · exact ⟨_, h⟩

/-! ## 3. The replaced settings -/

theorem override_of_unset {env : Environment} (c : Config)
    (h : env.text? timeoutVariable = none) : override env c = .ok (overrideRoot env c) := by
  simp only [override, overrideTimeout, h]

/-- A time limit in the environment is the outcome: a number of seconds or an error. -/
theorem override_of_set {env : Environment} {c c' : Config} {text : String}
    (h : env.text? timeoutVariable = some text) : override env c = .ok c' ↔
      ∃ n, IsSeconds (Text.Utf8.bytes text) n ∧
        c' = { overrideRoot env c with tools := { c.tools with timeoutSecs := some n } } := by
  have htools : (overrideRoot env c).tools = c.tools := by
    unfold overrideRoot
    split <;> rfl
  simp only [override, overrideTimeout, h, isSeconds_bytes, htools]
  cases Number.readUnsigned 10 Number.max64 text.toList with
  | error e => simp
  | ok n => simp [eq_comm]

/-- The settings `layered` are `bare` with what the environment says put over them. -/
structure LayeredOn (env : Environment) (bare layered : Config) : Prop where
  root : ∀ value, env.get? rootVariable = some value → layered.templatesRoot.bytes = value
  sameRoot : env.get? rootVariable = none → layered.templatesRoot = bare.templatesRoot
  timeout : ∀ value, env.get? timeoutVariable = some value →
    ∃ n, IsSeconds value n ∧ layered.tools.timeoutSecs = some n
  sameTimeout : env.get? timeoutVariable = none →
    layered.tools.timeoutSecs = bare.tools.timeoutSecs
  others : layered = { bare with
    templatesRoot := layered.templatesRoot
    tools := { bare.tools with timeoutSecs := layered.tools.timeoutSecs } }

/-- The outcome `layered` is `bare` under what the environment says: it gives settings exactly if
    `bare` does and the time limit, when it is set, is a number of seconds. -/
structure Layered (env : Environment) (bare layered : Except ConfigError Config) : Prop where
  succeeds_iff : (∃ c, layered = .ok c) ↔ (∃ c, bare = .ok c) ∧
    ∀ value, env.get? timeoutVariable = some value → ∃ n, IsSeconds value n
  settings : ∀ b c, bare = .ok b → layered = .ok c → LayeredOn env b c

theorem overrideRoot_root {env : Environment} {value : Bytes}
    (hroot : env.IsReadable rootVariable) (h : env.get? rootVariable = some value) (c : Config) :
    (overrideRoot env c).templatesRoot.bytes = value := by
  obtain ⟨text, rfl⟩ := hroot value h
  simp only [overrideRoot, Environment.text?_eq_some_iff.2 h, Path.ofString]

theorem overrideRoot_of_unset {env : Environment} (h : env.text? rootVariable = none)
    (c : Config) : overrideRoot env c = c := by
  simp only [overrideRoot, h]

theorem overrideRoot_others (env : Environment) (c : Config) : overrideRoot env c =
    { c with templatesRoot := (overrideRoot env c).templatesRoot } := by
  unfold overrideRoot
  split <;> rfl

theorem layeredOn_override {env : Environment} {c c' : Config}
    (hroot : env.IsReadable rootVariable) (htimeout : env.IsReadable timeoutVariable)
    (h : override env c = .ok c') : LayeredOn env c c' := by
  have hothers := overrideRoot_others env c
  have hsame (hunset : env.get? rootVariable = none) :
      (overrideRoot env c).templatesRoot = c.templatesRoot := by
    rw [overrideRoot_of_unset (Environment.text?_eq_none_of_get? hunset)]
  cases htext : env.text? timeoutVariable with
  | none =>
    have hunset := (Environment.text?_eq_none_iff htimeout).1 htext
    rw [override_of_unset c htext, Except.ok.injEq] at h
    subst h
    exact {
      root := fun value hvalue => overrideRoot_root hroot hvalue c
      sameRoot := hsame
      timeout := fun value hvalue => nomatch hunset.symm.trans hvalue
      sameTimeout := fun _ => by rw [hothers]
      others := by rw [hothers] }
  | some text =>
    have hset := Environment.text?_eq_some_iff.1 htext
    obtain ⟨n, hn, rfl⟩ := (override_of_set htext).1 h
    exact {
      root := fun value hvalue => overrideRoot_root hroot hvalue c
      sameRoot := hsame
      timeout := fun value hvalue => ⟨n, Option.some.inj (hset.symm.trans hvalue) ▸ hn, rfl⟩
      sameTimeout := fun hunset => nomatch hset.symm.trans hunset
      others := by rw [hothers] }

theorem override_succeeds {env : Environment} {c : Config}
    (h : ∀ value, env.get? timeoutVariable = some value → ∃ n, IsSeconds value n) :
    ∃ c', override env c = .ok c' := by
  cases htext : env.text? timeoutVariable with
  | none => exact ⟨_, override_of_unset c htext⟩
  | some text =>
    obtain ⟨n, hn⟩ := h _ (Environment.text?_eq_some_iff.1 htext)
    exact ⟨_, (override_of_set htext).2 ⟨n, hn, rfl⟩⟩

theorem override_succeeds_iff {env : Environment} {c : Config}
    (htimeout : env.IsReadable timeoutVariable) : (∃ c', override env c = .ok c') ↔
      ∀ value, env.get? timeoutVariable = some value → ∃ n, IsSeconds value n := by
  refine ⟨?_, override_succeeds⟩
  rintro ⟨c', hc'⟩ value hvalue
  obtain ⟨text, rfl⟩ := htimeout value hvalue
  obtain ⟨n, hn, -⟩ := (override_of_set (Environment.text?_eq_some_iff.2 hvalue)).1 hc'
  exact ⟨n, hn⟩

/-- **What the environment says counts exactly if it can be read.** A variable that is no text is
    passed over, and then the settings keep a root that is a text, or succeed without a time limit. -/
theorem layered_override_iff (env : Environment) {c : Config} {s : String}
    (hs : c.templatesRoot = .ofString s) : Layered env (.ok c) (override env c) ↔
      env.IsReadable timeoutVariable ∧ (env.IsReadable rootVariable ∨
        ∃ value, env.get? timeoutVariable = some value ∧ ∀ n, ¬ IsSeconds value n) := by
  constructor
  · intro h
    have htimeout : env.IsReadable timeoutVariable := by
      by_contra hnot
      have hok := override_of_unset c (Environment.text?_eq_none_of_not_readable hnot)
      refine hnot fun value hvalue => ?_
      obtain ⟨n, hn⟩ := (h.succeeds_iff.1 ⟨_, hok⟩).2 value hvalue
      exact hn.readable
    refine ⟨htimeout, ?_⟩
    by_contra hnot
    obtain ⟨hroot, hseconds⟩ := not_or.1 hnot
    obtain ⟨c', hc'⟩ := override_succeeds (c := c) fun value hvalue => by
      by_contra hn
      exact hseconds ⟨value, hvalue, not_exists.1 hn⟩
    have hkept : c'.templatesRoot = .ofString s := by
      have hunset := overrideRoot_of_unset (Environment.text?_eq_none_of_not_readable hroot) c
      cases htext : env.text? timeoutVariable with
      | none =>
        rw [override_of_unset c htext, hunset] at hc'
        cases hc'
        exact hs
      | some text =>
        obtain ⟨n, -, rfl⟩ := (override_of_set htext).1 hc'
        rw [hunset]
        exact hs
    refine hroot fun value hvalue => ⟨s, ?_⟩
    rw [← (h.settings c c' rfl hc').root value hvalue, hkept, Path.ofString]
  · rintro ⟨htimeout, hroot | ⟨value, hvalue, hseconds⟩⟩
    · refine ⟨?_, ?_⟩
      · rw [override_succeeds_iff htimeout]
        exact ⟨fun h => ⟨⟨c, rfl⟩, h⟩, fun h => h.2⟩
      · rintro b c' ⟨⟩ hc'
        exact layeredOn_override hroot htimeout hc'
    · have hfails : ¬ ∃ c', override env c = .ok c' := fun h =>
        have ⟨n, hn⟩ := (override_succeeds_iff htimeout).1 h value hvalue
        hseconds n hn
      refine ⟨iff_of_false hfails fun h => ?_, fun b c' _ hc' => absurd ⟨c', hc'⟩ hfails⟩
      obtain ⟨n, hn⟩ := h.2 value hvalue
      exact hseconds n hn

/-! ## 4. Settings with a root that is a text -/

/-- The root of settings that are read is a text. -/
theorem decode_root {d : Yaml.Document} {route : Yaml.Route} {n : Yaml.Node} {c : Config}
    {k k' : Nat} (h : decode d route n k = .ok c k') :
    ∃ s, c.templatesRoot = .ofString s := by
  refine Decode.record_preserves (I := fun c => ∃ s, c.templatesRoot = .ofString s) ?_ h
    ⟨"Templates", rfl⟩
  intro name hname route n c c' k k' hset hc
  unfold setField at hset
  split at hset
  · obtain ⟨s, _, -, hok⟩ := bind_eq_ok.1 hset
    cases hok
    exact ⟨s, rfl⟩
  all_goals try
    obtain ⟨_, _, -, hok⟩ := bind_eq_ok.1 hset
    cases hok
    exact hc
  cases hset
  exact hc

theorem ofFile_root {fs : FileSystem} {path : Path} {c : Config} (h : ofFile fs path = .ok c) :
    ∃ s, c.templatesRoot = .ofString s := by
  unfold ofFile at h
  split at h
  · cases h
  · rename_i text _
    cases hc : ofText text with
    | error e => rw [hc] at h; cases h
    | ok c' =>
      rw [hc] at h
      cases h
      unfold ofText at hc
      split at hc
      · cases hc
        exact ⟨"Templates", rfl⟩
      · exact Decode.ofText_preserves (I := fun c => ∃ s, c.templatesRoot = .ofString s) hc
          ⟨"Templates", rfl⟩ fun d n k k' => decode_root

end Config

/-- The environment is looked at behind the file. -/
theorem resolveConfig_eq_bind (fs : FileSystem) (env : Environment) (path : Option Path) :
    resolveConfig fs env path =
      (resolveConfig fs (Config.bareEnvironment env) path).bind (Config.override env) := by
  have hbare (c : Config) : Config.override (Config.bareEnvironment env) c = .ok c :=
    Config.override_bareEnvironment env c
  cases path with
  | none => simp only [resolveConfig, hbare, Except.bind]
  | some path =>
    simp only [resolveConfig, loadConfig]
    cases Config.ofFile fs path with
    | error e => rfl
    | ok c => simp only [Except.bind, hbare]

theorem resolveConfig_bare_root {fs : FileSystem} {env : Environment} {path : Option Path}
    {c : Config} (h : resolveConfig fs (Config.bareEnvironment env) path = .ok c) :
    ∃ s, c.templatesRoot = .ofString s := by
  cases path with
  | none =>
    rw [resolveConfig, Config.override_bareEnvironment] at h
    cases h
    exact ⟨"Templates", rfl⟩
  | some path =>
    rw [resolveConfig, loadConfig] at h
    cases hfile : Config.ofFile fs path with
    | error e => rw [hfile] at h; cases h
    | ok c' =>
      rw [hfile, Except.bind, Config.override_bareEnvironment] at h
      cases h
      exact Config.ofFile_root hfile

/-! ## 5. Settings under an environment -/

/-- **When the environment is looked at in full.** The settings of any file, or of none, under any
    environment are those without the two variables with what the variables say put over them, exactly
    if, where the file gives settings, the time limit is a text and so is the root, unless the time
    limit is no number of seconds already. -/
theorem resolveConfig_layered_iff (fs : FileSystem) (env : Environment) (path : Option Path) :
    Config.Layered env (resolveConfig fs (Config.bareEnvironment env) path)
        (resolveConfig fs env path) ↔
      ∀ b, resolveConfig fs (Config.bareEnvironment env) path = .ok b →
        env.IsReadable Config.timeoutVariable ∧
          (env.IsReadable Config.rootVariable ∨
            ∃ value, env.get? Config.timeoutVariable = some value ∧
              ∀ n, ¬ Config.IsSeconds value n) := by
  rw [resolveConfig_eq_bind fs env path]
  cases hbare : resolveConfig fs (Config.bareEnvironment env) path with
  | error e =>
    refine iff_of_true ⟨iff_of_false ?_ ?_, fun b c h => nomatch h⟩ fun b h => nomatch h
    · rintro ⟨c, hc⟩
      cases hc
    · rintro ⟨⟨c, hc⟩, -⟩
      cases hc
  | ok b =>
    obtain ⟨s, hs⟩ := resolveConfig_bare_root hbare
    have hlayered := Config.layered_override_iff env hs
    rw [Except.bind, hlayered]
    exact ⟨fun h b' hb' => h, fun h => h b rfl⟩

/-- **A root that is no text is passed over without an error**: the packages are then built under the
    default root. -/
theorem resolveConfig_passesOver_root :
    let env : Environment := ⟨[(Config.rootVariable, [0x54, 0xFF])]⟩
    resolveConfig .empty env none = .ok {} ∧
      ¬ Config.Layered env (resolveConfig .empty (Config.bareEnvironment env) none)
        (resolveConfig .empty env none) := by
  intro env
  have hpassed : resolveConfig .empty env none = .ok {} := by decide +kernel
  have hbare : resolveConfig .empty (Config.bareEnvironment env) none = .ok {} := by decide
  refine ⟨hpassed, fun h => ?_⟩
  have hroot := (h.settings {} {} hbare hpassed).root [0x54, 0xFF] (by decide)
  exact absurd hroot (by decide)

end TemplatePress
