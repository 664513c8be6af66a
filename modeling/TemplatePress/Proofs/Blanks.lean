import TemplatePress.Proofs.Packages
import TemplatePress.Yaml.Document

/-!
# Documents of white space

The syntax of documents knows fewer spaces than there are white space characters. Of a text with
nothing but white space the others are the words of one plain scalar, or an error, and no collection
ever begins. This file fixes:

* `Keeps`: what holds before an action that succeeds holds behind it;
* `Lexer.IsSparse`: white space is left and simple tokens wait, with no block open;
* `Lexer.keeps_readNext`: one token more keeps that;
* `Document.root_of_isBlank`: so a document of white space is a scalar, if it is a document at all.
-/

namespace TemplatePress.Yaml

/-! ## 1. What actions keep -/

section Keeps

variable {ε σ α β : Type} {I : σ → Prop}

/-- What holds before an action that succeeds also holds behind it. -/
def Keeps (I : σ → Prop) (act : EStateM ε σ α) : Prop :=
  ∀ ⦃s a s'⦄, act s = .ok a s' → I s → I s'

theorem Keeps.pure (a : α) : Keeps I (Pure.pure a : EStateM ε σ α) := by
  rintro s _ _ ⟨⟩ hs
  exact hs

theorem Keeps.bind {act : EStateM ε σ α} {f : α → EStateM ε σ β} (hact : Keeps I act)
    (hf : ∀ a, Keeps I (f a)) : Keeps I (act >>= f) := by
  intro s b s' h hs
  obtain ⟨a, s₁, ha, hb⟩ := bind_eq_ok.1 h
  exact hf a hb (hact ha hs)

/-- Behind a look at the state, what holds of it is known of what was seen. -/
theorem Keeps.get_bind {f : σ → EStateM ε σ β} (hf : ∀ s, I s → Keeps I (f s)) :
    Keeps I (get >>= f) := by
  intro s b s' h hs
  obtain ⟨_, _, ⟨⟩, hb⟩ := bind_eq_ok.1 h
  exact hf s hs hb hs

theorem Keeps.set {s : σ} (hs : I s) : Keeps I (MonadStateOf.set s : EStateM ε σ PUnit) := by
  rintro _ _ _ ⟨⟩ -
  exact hs

theorem Keeps.modify {f : σ → σ} (hf : ∀ s, I s → I (f s)) :
    Keeps I (modify f : EStateM ε σ PUnit) := by
  rintro s _ _ ⟨⟩ hs
  exact hf s hs

end Keeps

/-! ## 2. Simple tokens -/

/-- The beginning of a text, its end, or a plain scalar. -/
inductive TokenKind.IsSimple : TokenKind → Prop
  | streamStart : IsSimple .streamStart
  | streamEnd : IsSimple .streamEnd
  | plain (text : String) : IsSimple (.scalar text .plain)

namespace Lexer

/-- White space is left, simple tokens wait, and no block is open. -/
structure IsSparse (l : Lexer) : Prop where
  rest : ∀ c ∈ l.input.rest, Text.isWhiteSpace c = true
  queue : ∀ t ∈ l.queue, t.kind.IsSimple
  columns : l.columns = []

theorem keeps_scan {α : Type} {s : Scan α} (h : ∀ ⦃i a i'⦄, s i = .ok a i' → i' = i) :
    Keeps IsSparse (scan s) := by
  intro l a l' hscan hl
  unfold scan at hscan
  split at hscan
  · rename_i hs
    cases hscan
    exact h hs ▸ hl
  · cases hscan

theorem keeps_need (n : Nat) : Keeps IsSparse (scan (Scan.need n)) := by
  refine keeps_scan fun i a i' h => ?_
  unfold Scan.need at h
  split at h <;> cases h
  rfl

theorem keeps_place : Keeps IsSparse (scan Scan.place) :=
  keeps_scan fun _ _ _ h => by cases h; rfl

theorem keeps_emit {kind : TokenKind} (h : kind.IsSimple) (start stop : Mark) :
    Keeps IsSparse (emit kind start stop) :=
  .modify fun _ hl => { hl with
    queue := List.forall_mem_append.2 ⟨hl.queue, List.forall_mem_singleton.2 h⟩ }

/-! ## 3. Steps that read nothing -/

theorem keeps_failKey {α : Type} (k : PossibleKey) : Keeps IsSparse (failKey k : Lex α) :=
  fun _ _ _ => nofun

theorem keeps_dropStaleKeys : Keeps IsSparse dropStaleKeys := by
  refine .get_bind fun l hl => ?_
  dsimp only
  split
  · exact keeps_failKey _
  · exact .set ⟨hl.rest, hl.queue, hl.columns⟩

theorem keeps_dropKey : Keeps IsSparse dropKey := by
  refine .get_bind fun l hl => ?_
  split
  · split
    · exact (keeps_failKey _).bind fun _ => .set ⟨hl.rest, hl.queue, hl.columns⟩
    · exact .set ⟨hl.rest, hl.queue, hl.columns⟩
  · exact .pure _

theorem keeps_saveKey : Keeps IsSparse saveKey := by
  refine .get_bind fun l _ => ?_
  split
  · exact keeps_dropKey.bind fun _ => .modify fun l hl => ⟨hl.rest, hl.queue, hl.columns⟩
  · exact .pure _

theorem keeps_allowKey (allowed : Bool) : Keeps IsSparse (allowKey allowed) :=
  .modify fun _ hl => ⟨hl.rest, hl.queue, hl.columns⟩

/-- No block is open, so that none is closed. -/
theorem keeps_closeBlocks (column : Option Nat) : Keeps IsSparse (closeBlocks column) := by
  refine .get_bind fun l hl => ?_
  split
  · rw [hl.columns]
    exact .set ⟨hl.rest, by simpa [remaining] using hl.queue, rfl⟩
  · exact .pure _

/-! ## 4. Reading -/

theorem gap_suffix (inFlow comment keyAllowed : Bool) (cs : List Char) (mark : Mark) :
    (gap inFlow comment keyAllowed cs mark).1 <:+ cs := by
  fun_induction gap inFlow comment keyAllowed cs mark with
  | case1 => exact List.suffix_rfl
  | case2 _ _ _ _ ih => exact ih.trans ((List.suffix_cons _ _).trans (List.suffix_cons _ _))
  | case8 => exact List.suffix_rfl
  | _ =>
    rename_i ih
    exact ih.trans (List.suffix_cons _ _)

theorem keeps_skipGap : Keeps IsSparse skipGap := by
  refine .get_bind fun l hl => ?_
  refine Keeps.bind (.set ⟨fun c hc => hl.rest c ?_, hl.queue, hl.columns⟩) fun _ => keeps_need 1
  exact (gap_suffix ..).subset hc

theorem keeps_readStreamStart : Keeps IsSparse readStreamStart :=
  keeps_place.bind fun _ => Keeps.bind (.modify fun _ hl => ⟨hl.rest, hl.queue, hl.columns⟩)
    fun _ => keeps_emit .streamStart _ _

theorem keeps_readStreamEnd : Keeps IsSparse readStreamEnd := by
  refine Keeps.bind (.modify fun l hl => ?_) fun _ => ?_
  · split
    · exact hl
    · exact ⟨hl.rest, hl.queue, hl.columns⟩
  · exact (keeps_closeBlocks none).bind fun _ => keeps_dropKey.bind fun _ =>
      keeps_place.bind fun _ => Keeps.bind (.modify fun _ hl => ⟨hl.rest, hl.queue, hl.columns⟩)
        fun _ => keeps_emit .streamEnd _ _

end Lexer

theorem Plain.scan_suffix {c : Plain.Context} {rest seen : List Char} {mark stop : Mark} {gap : Gap}
    {found : Plain.Found} (h : Plain.scan c rest mark gap seen stop = .ok found) :
    found.rest <:+ rest := by
  fun_induction Plain.scan c rest mark gap seen stop with
  | case1 | case5 | case8 | case10 => cases h
  | case2 | case7 | case9 =>
    cases h
    exact List.suffix_rfl
  | case3 _ _ _ _ _ ih => exact (ih h).trans ((List.suffix_cons _ _).trans (List.suffix_cons _ _))
  | case4 | case6 | case11 =>
    rename_i ih
    exact (ih h).trans (List.suffix_cons _ _)

namespace Lexer

theorem keeps_readPlain : Keeps IsSparse readPlain := by
  refine keeps_saveKey.bind fun _ => (keeps_allowKey false).bind fun _ => .get_bind fun l hl => ?_
  dsimp only
  split
  · exact fun _ _ _ => nofun
  · rename_i found hfound
    refine Keeps.bind (.set ⟨fun c hc => hl.rest c ?_, hl.queue, hl.columns⟩)
      fun _ => keeps_emit (.plain _) _ _
    exact (Plain.scan_suffix hfound).subset hc

/-- White space begins no token but a plain scalar. -/
theorem keeps_readToken (inFlow atLineStart : Bool) {c : Char} (hc : Text.isWhiteSpace c = true)
    (rest : List Char) : Keeps IsSparse (readToken inFlow atLineStart c rest) := by
  have hne {x : Char} (hx : Text.isWhiteSpace x = false) : (c == x) = false := by
    refine beq_eq_false_iff_ne.2 ?_
    rintro rfl
    exact Bool.false_ne_true (hx.symm.trans hc)
  unfold readToken
  simp (disch := decide) only [hne, Bool.and_false, Bool.false_and, Bool.false_eq_true, if_false]
  split
  · exact keeps_readPlain
  · exact keeps_place.bind fun _ _ _ _ => nofun

/-- **One token more is read of white space**, and it is a simple one. -/
theorem keeps_readNext : Keeps IsSparse readNext := by
  refine (keeps_need 1).bind fun _ => .get_bind fun l _ => ?_
  split
  · exact keeps_readStreamStart
  · refine keeps_skipGap.bind fun _ => keeps_dropStaleKeys.bind fun _ => .get_bind fun l hl =>
      (keeps_closeBlocks _).bind fun _ => (keeps_need 4).bind fun _ => ?_
    split
    · exact keeps_readStreamEnd
    · rename_i c rest hrest
      exact keeps_readToken _ _ (hl.rest c (hrest ▸ List.mem_cons_self)) rest

theorem keeps_fill (rounds : Nat) : Keeps IsSparse (fill rounds) := by
  induction rounds with
  | zero => exact .pure _
  | succ rounds ih =>
    refine .get_bind fun l _ => ?_
    split
    · exact keeps_readNext.bind fun _ => ih
    · refine keeps_dropStaleKeys.bind fun _ => .get_bind fun l _ => ?_
      split
      · exact keeps_readNext.bind fun _ => ih
      · exact .pure _

theorem peek_of_isSparse {l l' : Lexer} {token : Token} (h : peek l = .ok token l')
    (hl : l.IsSparse) : token.kind.IsSimple ∧ l'.IsSparse := by
  obtain ⟨_, _, ⟨⟩, h⟩ := bind_eq_ok.1 h
  obtain ⟨_, l₁, hfill, h⟩ := bind_eq_ok.1 h
  obtain ⟨_, _, ⟨⟩, h⟩ := bind_eq_ok.1 h
  have hl₁ := keeps_fill _ hfill hl
  cases hqueue : l₁.queue with
  | nil =>
    rw [hqueue] at h
    cases h
    exact ⟨.streamEnd, hl₁⟩
  | cons next rest =>
    rw [hqueue] at h
    cases h
    exact ⟨hl₁.queue _ (hqueue ▸ List.mem_cons_self), hl₁⟩

theorem take_of_isSparse {l l' : Lexer} (h : take l = .ok () l') (hl : l.IsSparse) :
    l'.IsSparse := by
  cases h
  exact ⟨hl.rest, fun t ht => hl.queue t (List.mem_of_mem_drop ht), hl.columns⟩

theorem isSparse_ofText {text : String} (h : Text.isBlank text = true) :
    (Lexer.ofText text).IsSparse := by
  have hwhite : ∀ c ∈ text.toList, Text.isWhiteSpace c = true := List.all_eq_true.1 h
  refine ⟨?_, List.forall_mem_nil _, rfl⟩
  simp only [Lexer.ofText, Input.ofText]
  split
  · exact hwhite
  · exact fun c hc => hwhite c (List.mem_of_mem_take hc)

end Lexer

/-! ## 5. Events -/

theorem TokenKind.IsSimple.not_isDirective {k : TokenKind} (h : k.IsSimple) :
    Grammar.isDirective k = false := by
  cases h <;> rfl

theorem TokenKind.IsSimple.ne_documentStart {k : TokenKind} (h : k.IsSimple) :
    k ≠ .documentStart := by
  cases h <;> exact nofun

namespace Grammar

theorem peek_of_isSparse {g g' : Grammar} {token : Token} (h : peek g = .ok token g')
    (hg : g.lexer.IsSparse) :
    token.kind.IsSimple ∧ g'.lexer.IsSparse ∧ g'.stack = g.stack := by
  unfold peek lex at h
  split at h
  · rename_i hpeek
    cases h
    exact ⟨(Lexer.peek_of_isSparse hpeek hg).1, (Lexer.peek_of_isSparse hpeek hg).2, rfl⟩
  · cases h

theorem take_of_isSparse {g g' : Grammar} (h : take g = .ok () g') (hg : g.lexer.IsSparse) :
    g'.lexer.IsSparse ∧ g'.stack = g.stack := by
  cases h
  exact ⟨Lexer.take_of_isSparse rfl hg, rfl⟩

theorem takePeek_of_isSparse {g g' : Grammar} {token : Token} (h : takePeek g = .ok token g')
    (hg : g.lexer.IsSparse) :
    token.kind.IsSimple ∧ g'.lexer.IsSparse ∧ g'.stack = g.stack := by
  obtain ⟨_, g₁, htake, h⟩ := bind_eq_ok.1 h
  obtain ⟨hsparse, hstack⟩ := take_of_isSparse htake hg
  exact hstack ▸ peek_of_isSparse h hsparse

theorem readDirectives_of_isSparse {g g' : Grammar} {rounds : Nat} {versioned : Bool}
    {handles handles' : List (String × Bytes)}
    (h : readDirectives rounds versioned handles g = .ok handles' g') (hg : g.lexer.IsSparse) :
    g'.lexer.IsSparse ∧ g'.stack = g.stack := by
  cases rounds with
  | zero =>
    cases h
    exact ⟨hg, rfl⟩
  | succ rounds =>
    obtain ⟨token, g₁, hpeek, h⟩ := bind_eq_ok.1 h
    obtain ⟨hsimple, hrest⟩ := peek_of_isSparse hpeek hg
    revert h
    generalize token.kind = kind at hsimple
    cases hsimple <;> rintro ⟨⟩ <;> exact hrest

theorem beginDocument_of_isSparse {g g' : Grammar} (h : beginDocument g = .ok none g')
    (hg : g.lexer.IsSparse) : g'.lexer.IsSparse ∧ g'.stack = .root :: g.stack := by
  obtain ⟨_, g₁, hpeek, h⟩ := bind_eq_ok.1 h
  obtain ⟨-, hsparse₁, hstack₁⟩ := peek_of_isSparse hpeek hg
  obtain ⟨token, g₂, htake, h⟩ := bind_eq_ok.1 h
  obtain ⟨hsimple, hsparse₂, hstack₂⟩ := takePeek_of_isSparse htake hsparse₁
  dsimp only at h
  split at h
  · cases h
  · obtain ⟨_, _, ⟨⟩, h⟩ := bind_eq_ok.1 h
    obtain ⟨handles, g₃, hdirectives, h⟩ := bind_eq_ok.1 h
    obtain ⟨hsparse₃, hstack₃⟩ := readDirectives_of_isSparse hdirectives hsparse₂
    obtain ⟨_, g₄, ⟨⟩, h⟩ := bind_eq_ok.1 h
    obtain ⟨next, g₅, hnext, h⟩ := bind_eq_ok.1 h
    obtain ⟨hsimple₅, hsparse₅, hstack₅⟩ := peek_of_isSparse hnext hsparse₃
    rw [if_neg hsimple₅.ne_documentStart, hsimple.not_isDirective, if_neg Bool.false_ne_true] at h
    cases h
    exact ⟨hsparse₅, congrArg (_ :: ·) (hstack₅.trans (hstack₃.trans (hstack₂.trans hstack₁)))⟩

theorem readProperties_of_isSparse {g g' : Grammar} {found : Properties × Token}
    (h : readProperties g = .ok found g') (hg : g.lexer.IsSparse) :
    found.1 = {} ∧ found.2.kind.IsSimple ∧ g'.lexer.IsSparse ∧ g'.stack = g.stack := by
  obtain ⟨token, g₁, hpeek, h⟩ := bind_eq_ok.1 h
  have hread := peek_of_isSparse hpeek hg
  obtain ⟨kind, start, stop⟩ := token
  obtain ⟨hsimple, -⟩ := id hread
  cases hsimple <;> cases h <;> exact ⟨rfl, hread⟩

/-- A node of simple tokens is a scalar. -/
theorem readNode_of_isSparse {g g' : Grammar} {block : Bool} {event : Event String}
    (h : readNode block false g = .ok event g') (hg : g.lexer.IsSparse) :
    g'.stack = g.stack ∧ ∃ text, event.kind = .scalar none none text .plain := by
  obtain ⟨⟨kind, start, stop⟩, g₁, hpeek, h⟩ := bind_eq_ok.1 h
  obtain ⟨hsimple, hsparse₁, hstack₁⟩ := peek_of_isSparse hpeek hg
  -- No simple token is a reference: whichever comes, properties are read, and there are none.
  cases hsimple
  all_goals
    obtain ⟨⟨_, kind, _, _⟩, g₂, hproperties, h⟩ := bind_eq_ok.1 h
    obtain ⟨rfl, hsimple, hsparse₂, hstack₂⟩ := readProperties_of_isSparse hproperties hsparse₁
    obtain ⟨_, _, ⟨⟩, h⟩ := bind_eq_ok.1 h
    cases hsimple with
    | streamStart => cases block <;> cases h
    | streamEnd => cases block <;> cases h
    | plain text =>
      obtain ⟨_, g₃, htake, h⟩ := bind_eq_ok.1 h
      cases h
      exact ⟨(take_of_isSparse htake hsparse₂).2.trans (hstack₂.trans hstack₁), text, rfl⟩

/-- A document of simple tokens ends with its first event. -/
theorem readEvents_of_isSparse {g : Grammar} (rounds : Nat) (hg : g.lexer.IsSparse)
    (hstack : g.stack = [.root]) :
    (g.readEvents (rounds + 2) []).1 = [] ∨
      ∃ mark text, (g.readEvents (rounds + 2) []).1 = [⟨.scalar none none text .plain, mark⟩] := by
  unfold readEvents
  simp only [hstack]
  split
  · rename_i event g' hstep
    obtain ⟨hstack', text, htext⟩ := readNode_of_isSparse hstep hg
    obtain ⟨kind, mark⟩ := event
    refine .inr ⟨mark, text, ?_⟩
    unfold readEvents
    simp only [hstack', List.reverse_singleton]
    exact congrArg (fun kind => [Event.mk kind mark]) htext
  · exact .inl rfl

end Grammar

/-! ## 6. Documents -/

theorem Document.events_ofReading (events : List (Event String)) (failure : Option SyntaxError)
    (after : Grammar) : (Document.ofReading events failure after).events =
      (Linked.ofEvents {} [] 0 events).events := by
  simp only [ofReading]
  split
  · rfl
  · rfl
  · split <;> rfl

/-- The node of a document is what its events make, whatever ended the reading. -/
theorem Document.root_ofReading (events : List (Event String)) (failure : Option SyntaxError)
    (after : Grammar) : (Document.ofReading events failure after).root =
      some (.ofEvents (Document.ofReading events failure after).events) := by
  rw [events_ofReading]
  simp only [ofReading]
  split
  · rfl
  · rfl
  · split <;> rfl

theorem Document.root_of_events {text : String} (h : (Document.ofText text).events ≠ []) :
    (Document.ofText text).root = some (.ofEvents (Document.ofText text).events) := by
  revert h
  unfold Document.ofText
  split
  · exact fun h => absurd rfl h
  · exact fun h => absurd rfl h
  · exact fun _ => root_ofReading _ _ _

/-- **A document of white space** is missing, cannot be read, or is a scalar. -/
theorem Document.root_of_isBlank {text : String} (h : Text.isBlank text = true) {node : Node}
    (hroot : (Document.ofText text).root = some node) :
    node = .broken ∨ ∃ mark word, node = .scalar mark none word .plain := by
  unfold Document.ofText at hroot
  split at hroot
  · cases hroot
    exact .inl rfl
  · cases hroot
  · rename_i g hbegin
    obtain ⟨hsparse, hstack⟩ :=
      Grammar.beginDocument_of_isSparse hbegin (Lexer.isSparse_ofText h)
    have hevents := Grammar.readEvents_of_isSparse (16 * g.lexer.size + 62) hsparse hstack
    dsimp only at hroot
    rw [root_ofReading, events_ofReading] at hroot
    cases hroot
    rcases hevents with hevents | ⟨mark, word, hevents⟩
    · rw [hevents]
      exact .inl rfl
    · rw [hevents]
      exact .inr ⟨mark, word, rfl⟩

end TemplatePress.Yaml
