import CallSpan.Proofs.Audit
import Mathlib.Data.List.Forall2

/-!
# Tracing and logging are transparent

A tree of interceptors may be **erased**: each tracing layer gives way to its
delegate, and to nothing if it has none, and each logging layer to nothing. What is
left are the layers of the users'. A call that goes through the tree ends as one that
goes through the erased tree does, with the same reply, status, panic or cancellation;
the users' layers and the handler are reached as often, in the same order and with the
same requests; and the client gets the same answers and is left in the same state.

Two things are asked. Predicates and decorators must not panic (`TracingPolicy.Calm`).
And what layers and the handler do must not depend on the span or the baggage of the
context that they get, which tracing is there to change: they are **blind** to them
(`Handler.Blind`, `Layer.Blind`). A blind program may look at a span, write it down and
act on it, as long as nothing else comes of it: `Program.Alike` compares programs up to
such **silent** operations.

The proof is a simulation. Of the two worlds only the clients and the visits of the
trails have to agree (`Agree`); what a tracing layer adds of its own is *discreet*, it
returns and leaves both alone, and can be dropped on one side.

Main result:

* `Interceptor.erase_transparent` — a tree and the erased tree run a call alike.
-/

namespace CallSpan

variable {m : Mode} {α β : Type}

-- ---------------------------------------------------------------------------
-- Erased trees
-- ---------------------------------------------------------------------------

namespace Interceptor

mutual

/-- The tree without its tracing and logging layers. -/
def erase : Interceptor m → Interceptor m
  | tracing _ delegate => eraseThrough delegate
  | composite layers => composite (eraseAll layers)
  | logging => composite []
  | custom layer => custom layer

/-- The erased delegate, or a layer that does nothing if there is none. -/
def eraseThrough : Option (Interceptor m) → Interceptor m
  | none => composite []
  | some delegate => delegate.erase

def eraseAll : List (Interceptor m) → List (Interceptor m)
  | [] => []
  | layer :: layers => layer.erase :: eraseAll layers

end

theorem eraseAll_eq_map (layers : List (Interceptor m)) : eraseAll layers = layers.map erase := by
  induction layers with
  | nil => rfl
  | cons layer layers ih => simp [eraseAll, ih]

end Interceptor

-- ---------------------------------------------------------------------------
-- What is asked of users
-- ---------------------------------------------------------------------------

/-- A policy whose predicate and decorator panic in no world. -/
structure TracingPolicy.Calm (m : Mode) (p : TracingPolicy) : Prop where
  predicate : ∀ inquiry (w : World m.Client) message,
    ((p.includes inquiry).run HookOp.perform w).1 ≠ .panicked message
  decorator : ∀ d (w : World m.Client) message, (p.decorate d w).1 ≠ .panicked message

/-- Subjects that differ at most in the span and the baggage of their contexts, and in how a
stream is wrapped. -/
structure Mode.Alike (s s' : m.Subject) : Prop where
  metadata : (Mode.contextOf s).metadata = (Mode.contextOf s').metadata
  request : Mode.request? s = Mode.request? s'

/-- An operation of which neither the client nor what lies within a layer learns anything. -/
def SpanOp.IsSilent : SpanOp → Prop
  | hook (.note _) | act _ _ | isRecording _ => True
  | hook (.panic _) => False

def HandlerOp.IsSilent : HandlerOp m → Prop
  | span o => o.IsSilent
  | client _ | wait => False

def LayerOp.IsSilent : LayerOp m → Prop
  | handler o => o.IsSilent
  | .next _ => False

/-- Operations of handlers that are the same to the client. -/
inductive HandlerOp.Same : {m : Mode} → HandlerOp m → HandlerOp m → Prop where
  | panic {m : Mode} (message : String) :
      @Same m (.span (.hook (.panic message))) (.span (.hook (.panic message)))
  | onServer (s s' : ServerStream) (op : StreamOp) :
      @Same .streaming (.client (.onServer s op)) (.client (.onServer s' op))
  | onClient (op : ClientOp) : @Same .streaming (.client (.onClient op)) (.client (.onClient op))
  | wait {m : Mode} : @Same m .wait .wait

/-- Operations of layers that are the same to the client and to what lies within. -/
inductive LayerOp.Same : LayerOp m → LayerOp m → Prop where
  | handler {o o' : HandlerOp m} (h : HandlerOp.Same o o') : LayerOp.Same (.handler o) (.handler o')
  | next {s s' : m.Subject} (h : Mode.Alike s s') : LayerOp.Same (.next s) (.next s')

/-- Programs that end alike and do the same, silent operations left aside: these may come on
one side alone, whatever is answered to them. -/
inductive Program.Alike {S : Signature} (silent : S.Op → Prop) (same : S.Op → S.Op → Prop) :
    Program S α → Program S α → Prop where
  | done (a : α) : Alike silent same (.done a) (.done a)
  | left {o : S.Op} {next : S.Answer o → Program S α} {q : Program S α} (ho : silent o)
      (h : ∀ a, Alike silent same (next a) q) : Alike silent same (.perform o next) q
  | right {o : S.Op} {next : S.Answer o → Program S α} {q : Program S α} (ho : silent o)
      (h : ∀ a, Alike silent same q (next a)) : Alike silent same q (.perform o next)
  | both {o o' : S.Op} {next : S.Answer o → Program S α} {next' : S.Answer o' → Program S α}
      (ho : same o o') (h : ∀ a a', HEq a a' → Alike silent same (next a) (next' a')) :
      Alike silent same (.perform o next) (.perform o' next')

/-- A handler whose behaviour does not depend on the span or baggage of the context. -/
def Handler.Blind (h : Handler m) : Prop :=
  ∀ s s', Mode.Alike s s' → (h s).Alike HandlerOp.IsSilent HandlerOp.Same (h s')

/-- A layer whose behaviour does not depend on the span or baggage of the context. -/
def Layer.Blind (layer : Layer m) : Prop :=
  ∀ info s s', Mode.Alike s s' →
    (layer info s).Alike LayerOp.IsSilent LayerOp.Same (layer info s')

-- ---------------------------------------------------------------------------
-- Worlds that agree
-- ---------------------------------------------------------------------------

/-- Visits of the same layer, or of the handler, with subjects that are alike, and the same
answer to the same operation on the client. -/
inductive Step.Same : {m : Mode} → Step m → Step m → Prop where
  | entered {m : Mode} (layer : Layer m) {s s' : m.Subject} (h : Mode.Alike s s') :
      Same (.entered layer s) (.entered layer s')
  | handled {m : Mode} {s s' : m.Subject} (h : Mode.Alike s s') :
      Same (.handled s) (.handled s')
  | onServer (s s' : ServerStream) (op : StreamOp) (answer : op.Answer) :
      @Same .streaming (.answered (.onServer s op) answer) (.answered (.onServer s' op) answer)
  | onClient (op : ClientOp) (answer : op.Answer) :
      @Same .streaming (.answered (.onClient op) answer) (.answered (.onClient op) answer)

def Trail.visits (t : Trail m) : Trail m := t.filter Step.isVisit

/-- Worlds with the same client, reached by the same visits. -/
structure Agree (w w' : World (Watched m)) : Prop where
  client : w.client.1 = w'.client.1
  visits : List.Forall₂ Step.Same (Trail.visits w.client.2) (Trail.visits w'.client.2)

/-- Calls that end the same way in worlds that agree, and leave worlds that agree. -/
def Similar (c c' : Call (Watched m) α) : Prop :=
  ∀ w w', Agree w w' → (c w).1 = (c' w').1 ∧ Agree (c w).2 (c' w').2

namespace Agree

theorem refl (w : World m.Client) : Agree (w.beside []) (w.beside []) := ⟨rfl, .nil⟩

/-- A visit more on both sides. -/
theorem visit {w w' : World (Watched m)} (h : Agree w w') {s s' : Step m} (hs : Step.Same s s') :
    Agree (w.bare.beside (w.client.2 ++ [s])) (w'.bare.beside (w'.client.2 ++ [s'])) := by
  have hvisit : s.isVisit = true ∧ s'.isVisit = true := by
    cases hs <;> exact ⟨rfl, rfl⟩
  refine ⟨h.client, ?_⟩
  show List.Forall₂ Step.Same (Trail.visits (w.client.2 ++ [s]))
    (Trail.visits (w'.client.2 ++ [s']))
  rw [Trail.visits, Trail.visits, List.filter_append, List.filter_append,
    List.filter_cons_of_pos hvisit.1, List.filter_cons_of_pos hvisit.2]
  exact List.rel_append h.visits (.cons hs .nil)

end Agree

/-- A world with the client and the visits of another. -/
structure Unseen (w w₁ : World (Watched m)) : Prop where
  client : w₁.client.1 = w.client.1
  visits : Trail.visits w₁.client.2 = Trail.visits w.client.2

namespace Unseen

variable {w w₁ w₂ w' : World (Watched m)}

theorem trans (h : Unseen w w₁) (h' : Unseen w₁ w₂) : Unseen w w₂ :=
  ⟨h'.client.trans h.client, h'.visits.trans h.visits⟩

theorem agree_left (h : Unseen w w₁) (hw : Agree w w') : Agree w₁ w' := by
  refine ⟨h.client.trans hw.client, ?_⟩
  rw [h.visits]
  exact hw.visits

theorem agree_right (h : Unseen w w₁) (hw : Agree w' w) : Agree w' w₁ := by
  refine ⟨hw.client.trans h.client.symm, ?_⟩
  rw [h.visits]
  exact hw.visits

end Unseen

-- ---------------------------------------------------------------------------
-- Discreet calls
-- ---------------------------------------------------------------------------

/-- A call that returns, in whatever world, a value with a property, unseen. -/
def Discreet (P : α → Prop) (c : Call (Watched m) α) : Prop :=
  ∀ w, ∃ a w₁, c w = (.returned a, w₁) ∧ P a ∧ Unseen w w₁

namespace Discreet

variable {P : α → Prop} {Q : β → Prop}

theorem returns {a : α} (ha : P a) : Discreet (m := m) P (Call.returns a) :=
  fun w => ⟨a, w, rfl, ha, rfl, rfl⟩

theorem record (f : Recorder → Recorder) : Discreet (m := m) (fun _ => True) (Call.record f) :=
  fun w => ⟨(), { w with recorder := f w.recorder }, rfl, trivial, rfl, rfl⟩

theorem log (e : Entry) : Discreet (m := m) (fun _ => True) (Call.log e) := record _

theorem act (author : Author) (cx : Context) (a : SpanAction) :
    Discreet (m := m) (fun _ => True) (Call.act author cx a) := record _

theorem start (s : SpanStart) : Discreet (m := m) (fun _ => True) (Call.start s) :=
  fun w => ⟨(w.recorder.start s).1, { w with recorder := (w.recorder.start s).2 }, rfl, trivial,
    rfl, rfl⟩

theorem step {s : Step m} (hs : s.isVisit = false) :
    Discreet (fun _ => True) (Call.step s) := by
  intro w
  refine ⟨(), w.bare.beside (w.client.2 ++ [s]), rfl, trivial, rfl, ?_⟩
  show Trail.visits (w.client.2 ++ [s]) = Trail.visits w.client.2
  rw [Trail.visits, List.filter_append, List.filter_cons_of_neg (by simp [hs]), List.filter_nil,
    List.append_nil, Trail.visits]

theorem bind {c : Call (Watched m) α} {f : α → Call (Watched m) β} (hc : Discreet P c)
    (hf : ∀ a, P a → Discreet Q (f a)) : Discreet Q (c.bind f) := by
  intro w
  obtain ⟨a, w₁, hrun, ha, hw₁⟩ := hc w
  obtain ⟨b, w₂, hrun', hb, hw₂⟩ := hf a ha w₁
  refine ⟨b, w₂, ?_, hb, hw₁.trans hw₂⟩
  rw [Call.bind, hrun]
  exact hrun'

end Discreet

namespace Similar

variable {P : α → Prop}

theorem returns (a : α) : Similar (m := m) (Call.returns a) (Call.returns a) :=
  fun _ _ h => ⟨rfl, h⟩

theorem panic (message : String) :
    Similar (m := m) (Call.panic message : Call _ α) (Call.panic message) :=
  fun _ _ h => ⟨rfl, h⟩

theorem wait : Similar (m := m) (Call.wait : Call _ α) Call.wait :=
  fun _ _ h => ⟨rfl, h⟩

theorem bind {c c' : Call (Watched m) α} {f f' : α → Call (Watched m) β} (hc : Similar c c')
    (hf : ∀ a, Similar (f a) (f' a)) : Similar (c.bind f) (c'.bind f') := by
  intro w w' h
  obtain ⟨hout, hagree⟩ := hc w w' h
  simp only [Call.bind]
  rcases hcw : c w with ⟨outcome, w₁⟩
  rcases hcw' : c' w' with ⟨outcome', w₁'⟩
  rw [hcw, hcw'] at hout hagree
  obtain rfl : outcome = outcome' := hout
  cases outcome with
  | returned a => exact hf a w₁ w₁' hagree
  | panicked message => exact ⟨rfl, hagree⟩
  | cancelled => exact ⟨rfl, hagree⟩

/-- A discreet beginning on the left. -/
theorem discreet_bind {c : Call (Watched m) α} {f : α → Call (Watched m) β}
    {c' : Call (Watched m) β} (hc : Discreet P c) (hf : ∀ a, P a → Similar (f a) c') :
    Similar (c.bind f) c' := by
  intro w w' h
  obtain ⟨a, w₁, hrun, ha, hw₁⟩ := hc w
  rw [Call.bind, hrun]
  exact hf a ha w₁ w' (hw₁.agree_left h)

/-- A discreet beginning on the right. -/
theorem bind_discreet {c : Call (Watched m) α} {f : α → Call (Watched m) β}
    {c' : Call (Watched m) β} (hc : Discreet P c) (hf : ∀ a, P a → Similar c' (f a)) :
    Similar c' (c.bind f) := by
  intro w w' h
  obtain ⟨a, w₁, hrun, ha, hw₁⟩ := hc w'
  rw [Call.bind, hrun]
  exact hf a ha w w₁ (hw₁.agree_right h)

/-- A discreet end on the left, which hands the value on. -/
theorem discreet_end {c c' : Call (Watched m) α} {f : α → Call (Watched m) α}
    (hc : Similar c c') (hf : ∀ a, Discreet (· = a) (f a)) : Similar (c.bind f) c' := by
  -- without the end the right side would return the value too
  have hends : ∀ a, Similar (f a) (Call.returns a) := by
    intro a w w' h
    obtain ⟨b, w₁, hrun, rfl, hw₁⟩ := hf a w
    rw [hrun]
    exact ⟨rfl, hw₁.agree_left h⟩
  have h := hc.bind hends
  rwa [Call.bind_returns] at h

theorem andFinally {c c' : Call (Watched m) α} (hc : Similar c c') (f : Recorder → Recorder) :
    Similar (c.andFinally f) c' := by
  intro w w' h
  obtain ⟨hout, hagree⟩ := hc w w' h
  exact ⟨hout, hagree.client, hagree.visits⟩

theorem settling {c c' : Call (Watched m) α} (hc : Similar c c') : Similar c.settling c' := by
  intro w w' h
  obtain ⟨hout, hagree⟩ := hc w w' h
  refine ⟨hout, hagree.client, ?_⟩
  show List.Forall₂ Step.Same (Trail.visits ((c w).2.client.2 ++ [.settled])) _
  rw [Trail.visits, List.filter_append, List.filter_cons_of_neg (by simp [Step.isVisit]),
    List.filter_nil, List.append_nil]
  exact hagree.visits

/-- Programs that are alike run alike, if silent operations are discreet. -/
theorem run {S : Signature} {silent : S.Op → Prop} {same : S.Op → S.Op → Prop}
    {perform perform' : (o : S.Op) → Call (Watched m) (S.Answer o)}
    (hleft : ∀ o, silent o → Discreet (fun _ => True) (perform o))
    (hright : ∀ o, silent o → Discreet (fun _ => True) (perform' o))
    (hboth : ∀ {o o'}, same o o' → ∀ {f : S.Answer o → Call (Watched m) α}
      {f' : S.Answer o' → Call (Watched m) α},
      (∀ a a', HEq a a' → Similar (f a) (f' a')) →
        Similar ((perform o).bind f) ((perform' o').bind f'))
    {p q : Program S α} (h : p.Alike silent same q) :
    Similar (p.run perform) (q.run perform') := by
  -- by how the programs are alike: what is silent is run on its side alone
  induction h with
  | done a => exact returns a
  | left ho _ ih => exact discreet_bind (hleft _ ho) fun a _ => ih a
  | right ho _ ih => exact bind_discreet (hright _ ho) fun a _ => ih a
  | both ho _ ih => exact hboth ho ih

end Similar

-- ---------------------------------------------------------------------------
-- What users write
-- ---------------------------------------------------------------------------

theorem SpanOp.perform_discreet {o : SpanOp} (ho : o.IsSilent) :
    Discreet (m := m) (fun _ => True) o.perform := by
  cases o with
  | hook o =>
    cases o with
    | note n => exact Discreet.log (.noted n)
    | panic message => exact ho.elim
  | act cx a => exact Discreet.act .user cx a
  | isRecording cx => exact fun w => ⟨_, w, rfl, trivial, rfl, rfl⟩

theorem HandlerOp.audited_discreet {o : HandlerOp m} (ho : o.IsSilent) :
    Discreet (fun _ => True) o.audited := by
  cases o with
  | span o => exact SpanOp.perform_discreet ho
  | client o => exact ho.elim
  | wait => exact ho.elim

theorem LayerOp.audited_discreet {inner : Inside m (Watched m)} {o : LayerOp m}
    (ho : o.IsSilent) : Discreet (fun _ => True) (LayerOp.audited inner o) := by
  cases o with
  | handler o => exact HandlerOp.audited_discreet ho
  | next s => exact ho.elim

namespace Similar

theorem step {s s' : Step m} (h : Step.Same s s') : Similar (Call.step s) (Call.step s') :=
  fun _ _ hw => ⟨rfl, hw.visit h⟩

/-- What is done with the client depends on the client alone. -/
theorem onClient (f : m.Client → Outcome α × m.Client) :
    Similar (Call.onClient f).unwatched (Call.onClient f).unwatched := by
  intro w w' h
  have hclient : w.bare.client = w'.bare.client := h.client
  refine ⟨?_, ?_, h.visits⟩
  · show (f w.bare.client).1 = (f w'.bare.client).1
    rw [hclient]
  · show (f w.bare.client).2 = (f w'.bare.client).2
    rw [hclient]

end Similar

/-- The same operation on the client, through streams that need not be the same. -/
theorem audited_onServer_similar (s s' : ServerStream) (op : StreamOp) :
    Similar (α := op.Answer) (@HandlerOp.client .streaming (.onServer s op)).audited
      (@HandlerOp.client .streaming (.onServer s' op)).audited := by
  have hperform : s.perform op = s'.perform op := by
    rw [ServerStream.perform_eq, ServerStream.perform_eq]
  refine Similar.bind (α := op.Answer) ?_ fun answer =>
    Similar.bind (Similar.step (.onServer s s' op answer)) fun _ => Similar.returns answer
  show Similar (m := .streaming) (Call.onClient (s.perform op)).unwatched
    (Call.onClient (s'.perform op)).unwatched
  rw [hperform]
  exact Similar.onClient _

theorem audited_onClient_similar (op : ClientOp) :
    Similar (α := op.Answer) (@HandlerOp.client .streaming (.onClient op)).audited
      (@HandlerOp.client .streaming (.onClient op)).audited := by
  refine Similar.bind (α := op.Answer) ?_ fun answer =>
    Similar.bind (Similar.step (.onClient op answer)) fun _ => Similar.returns answer
  exact Similar.onClient (m := .streaming) fun c =>
    ((.returned (Channel.serve op c).1 : Outcome op.Answer), (Channel.serve op c).2)

theorem HandlerOp.audited_similar {o o' : HandlerOp m} (h : HandlerOp.Same o o')
    {f : o.Answer → Call (Watched m) α} {f' : o'.Answer → Call (Watched m) α}
    (hf : ∀ a a', HEq a a' → Similar (f a) (f' a')) :
    Similar (o.audited.bind f) (o'.audited.bind f') := by
  cases h with
  | panic message => exact Similar.bind (Similar.panic message) fun a => nomatch a
  | onServer s s' op =>
    exact Similar.bind (audited_onServer_similar s s' op) fun a => hf a a HEq.rfl
  | onClient op => exact Similar.bind (audited_onClient_similar op) fun a => hf a a HEq.rfl
  | wait => exact Similar.bind Similar.wait fun a => nomatch a

theorem Handler.audited_similar {h : Handler m} (hh : h.Blind) {s s' : m.Subject}
    (hs : Mode.Alike s s') : Similar (h.audited s) (h.audited s') := by
  apply Similar.bind (Similar.step (.handled hs))
  intro _
  exact Similar.run (fun _ ho => HandlerOp.audited_discreet ho)
    (fun _ ho => HandlerOp.audited_discreet ho)
    (fun ho _ _ hf => HandlerOp.audited_similar ho hf) (hh s s' hs)

variable {inner inner' : Inside m (Watched m)}

theorem Layer.audited_similar {layer : Layer m} (hl : layer.Blind) (info : m.Info)
    (hinner : ∀ s s', Mode.Alike s s' → Similar (inner s) (inner' s')) {s s' : m.Subject}
    (hs : Mode.Alike s s') :
    Similar (layer.audited info inner s) (layer.audited info inner' s') := by
  apply Similar.bind (Similar.step (.entered layer hs))
  intro _
  refine Similar.run (fun _ ho => LayerOp.audited_discreet ho)
    (fun _ ho => LayerOp.audited_discreet ho) ?_ (hl info s s' hs)
  intro o o' ho f f' hf
  cases ho with
  | handler ho => exact HandlerOp.audited_similar ho hf
  | next hs => exact Similar.bind (hinner _ _ hs) fun a => hf a a HEq.rfl

-- ---------------------------------------------------------------------------
-- What a tracing layer adds is discreet
-- ---------------------------------------------------------------------------

/-- Whatever is recorded is discreet. -/
def Discreet.rule (m : Mode) : Call.Rule (Watched m) (Watched m) where
  Holds c _ := Discreet (fun _ => True) c
  Allows _ _ _ := True
  returns _ := returns trivial
  bind hc hf := Discreet.bind hc fun a _ => hf a
  note n := log (.noted n)
  report r := log (.reported r)
  act _ := act _ _ _
  isRecording _ w := ⟨_, w, rfl, trivial, rfl, rfl⟩

theorem Discreet.rule_allowsAll : (rule m).AllowsAll := fun _ _ _ => trivial

/-- A call that returns unseen, or panics. -/
def Prompt (c : Call (Watched m) α) : Prop :=
  ∀ w, (∃ a w₁, c w = (.returned a, w₁) ∧ Unseen w w₁) ∨
    ∃ message w₁, c w = (.panicked message, w₁)

namespace Prompt

theorem of_discreet {P : α → Prop} {c : Call (Watched m) α} (h : Discreet P c) : Prompt c := by
  intro w
  obtain ⟨a, w₁, hrun, -, hw⟩ := h w
  exact Or.inl ⟨a, w₁, hrun, hw⟩

theorem bind {c : Call (Watched m) α} {f : α → Call (Watched m) β} (hc : Prompt c)
    (hf : ∀ a, Prompt (f a)) : Prompt (c.bind f) := by
  intro w
  rw [Call.bind]
  rcases hc w with ⟨a, w₁, hrun, hw₁⟩ | ⟨message, w₁, hrun⟩
  · rw [hrun]
    rcases hf a w₁ with ⟨b, w₂, hrun', hw₂⟩ | ⟨message, w₂, hrun'⟩
    · exact Or.inl ⟨b, w₂, hrun', hw₁.trans hw₂⟩
    · exact Or.inr ⟨message, w₂, hrun'⟩
  · rw [hrun]
    exact Or.inr ⟨message, w₁, rfl⟩

/-- What hooks do is prompt. -/
def rule (m : Mode) : Call.Rule (Watched m) (Watched m) where
  Holds c _ := Prompt c
  Allows _ _ _ := True
  returns _ w := Or.inl ⟨_, w, rfl, rfl, rfl⟩
  bind := bind
  note n := of_discreet (Discreet.log (.noted n))
  report r := of_discreet (Discreet.log (.reported r))
  act _ := of_discreet (Discreet.act _ _ _)
  isRecording _ w := Or.inl ⟨_, w, rfl, rfl, rfl⟩

theorem rule_panics : (rule m).Panics := fun message w => Or.inr ⟨message, w, rfl⟩

theorem rule_allowsAll : (rule m).AllowsAll := fun _ _ _ => trivial

/-- What is prompt and does not panic without an auditor is discreet with one. -/
theorem discreet {c : Call (Watched m) α} {c' : Call m.Client α} (h : Prompt c)
    (hshadows : Call.Shadows c c') (hcalm : ∀ w message, (c' w).1 ≠ .panicked message) :
    Discreet (fun _ => True) c := by
  intro w
  rcases h w with ⟨a, w₁, hrun, hw⟩ | ⟨message, w₁, hrun⟩
  · exact ⟨a, w₁, hrun, trivial, hw⟩
  · -- a panic with an auditor is one without
    have hpanics := congrArg Prod.fst (hshadows w)
    rw [hrun] at hpanics
    exact absurd hpanics.symm (hcalm w.bare message)

end Prompt

/-- The context within a span has the metadata of the context without. -/
theorem startServerSpan_discreet (cx decoded : Context) (parent : Option SpanContext)
    (method : String) :
    Discreet (m := m) (fun cx' => cx'.metadata = cx.metadata)
      (startServerSpan cx decoded parent method) := by
  unfold startServerSpan
  refine Discreet.bind (Discreet.start _) fun span _ => Discreet.returns ?_
  rw [withIncomingBaggage]
  split <;> rfl

namespace TracingPolicy

variable {p : TracingPolicy}

theorem decorate_discreet (hp : p.Calm m) (d : Decoration) :
    Discreet (m := m) (fun _ => True) (p.decorate d) := by
  have hprompt : (Prompt.rule m).Holds (p.decorate d) (p.decorate d) :=
    Prompt.rule_allowsAll.decorate Prompt.rule_panics p d
  exact Prompt.discreet hprompt (p.decorate_shadows d) (hp.decorator d)

theorem judge_discreet (hp : p.Calm m) (info : m.Info) (subject : m.Subject) :
    Discreet (m := m) (fun _ => True) (p.judge info subject) := by
  refine Call.Rule.judge (R := Discreet.rule m) p info subject fun i => ?_
  have hprompt : (Prompt.rule m).Holds ((p.includes i).run HookOp.perform)
      ((p.includes i).run HookOp.perform) := Call.Rule.asked Prompt.rule_panics p i
  exact Prompt.discreet hprompt (p.asked_shadows i) (hp.predicate i)

/-- A tracing layer is no more to the client than what lies within it. -/
theorem audited_similar (hp : p.Calm m) (info : m.Info)
    (hinner : ∀ s s', Mode.Alike s s' → Similar (inner s) (inner' s')) {s s' : m.Subject}
    (hs : Mode.Alike s s') : Similar (p.audited info inner s) (inner' s') := by
  -- judging, and the step for it, are on the left alone
  apply Similar.discreet_bind (judge_discreet hp info s)
  intro j _
  apply Similar.discreet_bind (Discreet.step rfl)
  intro _ _
  apply Similar.settling
  split
  · apply Similar.discreet_bind (startServerSpan_discreet _ _ _ _)
    intro cx hcx
    apply Similar.andFinally
    apply Similar.discreet_bind
      (Call.Rule.recordRequest (R := Discreet.rule m) p (Discreet.rule_allowsAll.within cx) _)
    intro _ _
    -- what goes down differs from what came in its span and its baggage
    have hrebased : Mode.Alike (Mode.rebase cx s) s' := by
      constructor
      · rw [Mode.contextOf_rebase, hcx, hs.metadata]
      · rw [Mode.request?_rebase, hs.request]
    refine (hinner _ _ hrebased).discreet_end fun result => ?_
    apply Discreet.bind
      (Call.Rule.recordOutcome (R := Discreet.rule m) p (Discreet.rule_allowsAll.within cx) result)
    intro _ _
    exact Discreet.bind (decorate_discreet hp _) fun _ _ => Discreet.returns rfl
  · exact Similar.discreet_bind (Discreet.log _) fun _ _ => hinner s s' hs

end TracingPolicy

-- ---------------------------------------------------------------------------
-- Trees
-- ---------------------------------------------------------------------------

namespace Interceptor

/-- A tree in which no predicate or decorator panics, and every layer of the users' is blind
to span and baggage. -/
def IsDiscreet (i : Interceptor m) : Prop := i.Every (TracingPolicy.Calm m) Layer.Blind

/-- Around insides that run alike, a tree and the erased tree run alike. -/
theorem audited_erase_similar {i : Interceptor m} (hi : i.IsDiscreet) (info : m.Info)
    (hinner : ∀ s s', Mode.Alike s s' → Similar (inner s) (inner' s')) {s s' : m.Subject}
    (hs : Mode.Alike s s') :
    Similar (i.audited info inner s) (i.erase.audited info inner' s') := by
  induction i generalizing inner inner' s s' with
  | tracing policy delegate ih =>
    cases hi with
    | tracing hp hd =>
      cases delegate with
      | none =>
        -- nothing is left of the layer
        simp only [erase, eraseThrough, audited_composite, List.foldr_nil]
        exact TracingPolicy.audited_similar hp info hinner hs
      | some d =>
        refine TracingPolicy.audited_similar hp info ?_ hs
        intro s s' hs
        exact ih d rfl (hd d rfl) hinner hs
  | composite layers ih =>
    cases hi with
    | composite hl =>
      simp only [erase, eraseAll_eq_map, audited_composite, List.foldr_map]
      let related (inside inside' : Inside m (Watched m)) : Prop :=
        ∀ s s', Mode.Alike s s' → Similar (inside s) (inside' s')
      -- layer by layer, from the handler outwards
      refine List.foldr_rel (r := related) hinner ?_ s s' hs
      intro layer hmem inside inside' hinside s s' hs
      exact ih layer hmem (hl layer hmem) hinside hs
  | logging =>
    -- the report comes last, and the result is handed on
    simp only [erase, audited_composite, List.foldr_nil]
    refine (hinner s s' hs).discreet_end fun result => ?_
    exact Discreet.bind (Discreet.record _) fun _ _ => Discreet.returns rfl
  | custom layer =>
    cases hi with
    | custom hl =>
      exact Layer.audited_similar hl info hinner hs

end Interceptor

/-- **Transparency.** A call that goes through a tree ends as it does through the erased tree,
leaves the client the same, and visits the same layers and the handler, in the same order, with
subjects that are alike; every operation on a stream is answered alike on the way. -/
theorem Interceptor.erase_transparent (i : Interceptor m) (h : Handler m) (info : m.Info)
    (subject : m.Subject) (w : World m.Client) (hi : i.IsDiscreet) (hh : h.Blind) :
    (i.intercept info h.serve subject w).1 = (i.erase.intercept info h.serve subject w).1 ∧
      (i.intercept info h.serve subject w).2.client
        = (i.erase.intercept info h.serve subject w).2.client ∧
      List.Forall₂ Step.Same (Trail.visits (i.trail h info subject w))
        (Trail.visits (i.erase.trail h info subject w)) := by
  have hinner : ∀ s s', Mode.Alike s s' → Similar (h.audited s) (h.audited s') :=
    fun s s' hs => Handler.audited_similar hh hs
  have hsimilar := Interceptor.audited_erase_similar hi info hinner
    (show Mode.Alike subject subject from ⟨rfl, rfl⟩)
  obtain ⟨hout, hclient, hvisits⟩ := hsimilar _ _ (Agree.refl w)
  rw [i.audited_eq, i.erase.audited_eq] at hout hclient hvisits
  exact ⟨hout, hclient, hvisits⟩

theorem Interceptor.retraced_isDiscreet : retraced.IsDiscreet := by
  refine retraced_every ⟨?_, ?_⟩ ?_
  · intro inquiry w message h
    exact nomatch h
  · intro d w message h
    exact nomatch h
  · intro info s s' hs
    refine .both (.next hs) fun a a' ha => ?_
    refine .both (.next hs) fun b b' hb => ?_
    obtain rfl := eq_of_heq hb
    exact .done b

theorem Handler.renaming_blind : Handler.renaming.Blind := by
  intro r r' hr
  refine .left trivial fun _ => .right trivial fun _ => ?_
  rw [Option.some.inj hr.request]
  exact .done _

theorem Interceptor.erase_transparent_retraced :
    retraced.IsDiscreet ∧ Handler.renaming.Blind ∧
      (retraced.intercept ⟨"/shop/Buy"⟩ Handler.renaming.serve .blank .fresh).1
        = (retraced.erase.intercept ⟨"/shop/Buy"⟩ Handler.renaming.serve .blank .fresh).1 :=
  ⟨retraced_isDiscreet, Handler.renaming_blind,
    (erase_transparent retraced Handler.renaming ⟨"/shop/Buy"⟩ .blank .fresh
      retraced_isDiscreet Handler.renaming_blind).1⟩

end CallSpan
