import CallSpan.Extraction
import CallSpan.Proofs.TextEntries
import CallSpan.Proofs.WireFormat

/-!
# What an injected span context amounts to

The writer appends and the reader takes the **first** value under a key. So an injected
span context decides about the two fields only where they had no value before: metadata
that already carries a trace keeps carrying it. What is extracted after an injection is
told case by case, by which of the fields had a value.

* Neither had one: the injected span context, as it is received.
* `tracestate` alone: the injected ids and flags, with the state that was there.
* `traceparent` alone: the parent that was there, with the injected state.
* Both: what would have been extracted without the injection.

Main result:

* `Propagator.extractParent_inject` — the four cases.
-/

namespace CallSpan

open Text

-- ---------------------------------------------------------------------------
-- The two fields as keys
-- ---------------------------------------------------------------------------

namespace TraceParent

def parentKey : Key := ⟨parentField, by decide⟩

def stateKey : Key := ⟨stateField, by decide⟩

theorem isBinary_parentKey : parentKey.isBinary = false := by decide

theorem isBinary_stateKey : stateKey.isBinary = false := by decide

theorem parentKey_ne_stateKey : parentKey ≠ stateKey := by decide

end TraceParent

open TraceParent

/-- The first text under a key once a text was stored there behind all others. -/
def Metadata.firstText (m : Metadata) (k : Key) (last : String) : Option String :=
  if m.values k = [] then some last else m.get? k.text

namespace Propagator

-- ---------------------------------------------------------------------------
-- Extraction by the two fields
-- ---------------------------------------------------------------------------

/-- The parent, for a span context that the two fields carry or do not. -/
def parentOf : Option SpanContext → Except ExtractError SpanContext
  | some sc => .ok sc
  | none => .error (.malformed [parentField, stateField])

/-- What the span context alone is extracted from. -/
theorem extractParent_standard {cx : Context} {md : Metadata} (h : cx.metadata = some md) :
    extractParent cx standard
      = match decode? (md.get? parentField) (md.get? stateField) with
        | some sc => .ok sc
        | none => .error (.classify md standard) := by
  rw [extractParent, extract, h, Option.getD_some]
  simp only [decode, standard, List.foldl_cons, List.foldl_nil, Part.decode]
  cases hdecode : decode? (md.get? parentField) (md.get? stateField) with
  | none => rfl
  | some sc =>
    have hvalid := (of_decode? hdecode).1
    simp [Context.withRemote, ActiveSpan.context, Option.filter, hvalid]

/-- Where both fields have values, what they do not carry is malformed. -/
theorem extractParent_of_present {cx : Context} {md : Metadata} (h : cx.metadata = some md)
    (hparent : md.values parentKey ≠ []) (hstate : md.values stateKey ≠ []) :
    extractParent cx standard
      = parentOf (decode? (md.get? parentField) (md.get? stateField)) := by
  have hfields : standard.fields.filter md.isPresent = [parentField, stateField] := by
    have hp : md.isPresent parentField = true :=
      (Metadata.isPresent_text (k := parentKey)).mpr hparent
    have hs : md.isPresent stateField = true :=
      (Metadata.isPresent_text (k := stateKey)).mpr hstate
    show [parentField, stateField].filter md.isPresent = _
    rw [List.filter_cons_of_pos hp, List.filter_cons_of_pos hs, List.filter_nil]
  rw [extractParent_standard h, ExtractError.classify, hfields]
  cases decode? (md.get? parentField) (md.get? stateField) <;> rfl

-- ---------------------------------------------------------------------------
-- Metadata after an injection
-- ---------------------------------------------------------------------------

section Injected

variable {sc : SpanContext} {cx : Context} {md : Metadata}

/-- A span context that can be injected: it is valid, and its state can travel as text. -/
structure Injectable (sc : SpanContext) : Prop where
  valid : sc.isValid = true
  visible : ∀ c ∈ sc.state.text.toList, isVisibleChar c = true

theorem inject_standard (hsc : Injectable sc) (hcx : cx.spanContext? = some sc) :
    standard.inject cx md
      = (md.put parentKey.text (parentText sc)).put stateKey.text sc.state.text := by
  have hfields : standard.flatMap (Part.encode cx)
      = [(parentField, parentText sc), (stateField, sc.state.text)] := by
    simp [standard, Part.encode, hcx, encode, hsc.valid]
  rw [inject, hfields, Metadata.putAll_cons, Metadata.putAll_cons, Metadata.putAll_nil, parentKey,
    stateKey]

/-- Each field gets a value behind those that it had; nothing else changes. -/
theorem values_inject (hsc : Injectable sc) (hcx : cx.spanContext? = some sc) (k : Key) :
    (standard.inject cx md).values k
      = md.values k ++ (if parentKey = k then [utf8 (parentText sc)] else [])
          ++ if stateKey = k then [utf8 sc.state.text] else [] := by
  rw [inject_standard hsc hcx, Metadata.values_put_text isBinary_stateKey hsc.visible,
    Metadata.values_put_text isBinary_parentKey (isVisible_parentText sc)]

theorem values_parentKey_inject (hsc : Injectable sc) (hcx : cx.spanContext? = some sc) :
    (standard.inject cx md).values parentKey ≠ [] := by
  simp [values_inject hsc hcx]

theorem values_stateKey_inject (hsc : Injectable sc) (hcx : cx.spanContext? = some sc) :
    (standard.inject cx md).values stateKey ≠ [] := by
  simp [values_inject hsc hcx]

theorem get?_parentField_inject (hsc : Injectable sc) (hcx : cx.spanContext? = some sc) :
    (standard.inject cx md).get? parentField = md.firstText parentKey (parentText sc) := by
  show (standard.inject cx md).get? parentKey.text = _
  rw [inject_standard hsc hcx,
    Metadata.get?_put_text isBinary_stateKey isBinary_parentKey hsc.visible,
    if_neg fun h => parentKey_ne_stateKey h.1.symm,
    Metadata.get?_put_text isBinary_parentKey isBinary_parentKey (isVisible_parentText sc)]
  simp only [true_and, Metadata.firstText]

theorem get?_stateField_inject (hsc : Injectable sc) (hcx : cx.spanContext? = some sc) :
    (standard.inject cx md).get? stateField = md.firstText stateKey sc.state.text := by
  have hvalues : (md.put parentKey.text (parentText sc)).values stateKey = md.values stateKey := by
    rw [Metadata.values_put_text isBinary_parentKey (isVisible_parentText sc),
      if_neg parentKey_ne_stateKey, List.append_nil]
  have hget : (md.put parentKey.text (parentText sc)).get? stateKey.text
      = md.get? stateKey.text := by
    rw [Metadata.get?_put_text isBinary_parentKey isBinary_stateKey (isVisible_parentText sc),
      if_neg fun h => parentKey_ne_stateKey h.1]
  show (standard.inject cx md).get? stateKey.text = _
  rw [inject_standard hsc hcx,
    Metadata.get?_put_text isBinary_stateKey isBinary_stateKey hsc.visible, hvalues, hget]
  simp only [true_and, Metadata.firstText]

/-- What is extracted after an injection is decoded from the first values. -/
theorem extractParent_of_injected (hsc : Injectable sc) (hcx : cx.spanContext? = some sc)
    {cx' : Context} (h : cx'.metadata = some (standard.inject cx md)) :
    extractParent cx' standard
      = parentOf (decode? (md.firstText parentKey (parentText sc))
          (md.firstText stateKey sc.state.text)) := by
  rw [extractParent_of_present h (values_parentKey_inject hsc hcx) (values_stateKey_inject hsc hcx),
    get?_parentField_inject hsc hcx, get?_stateField_inject hsc hcx]

/-- **Injections.** What is extracted after one, by which of the fields had a value. -/
theorem extractParent_inject (hsc : Injectable sc) (hcx : cx.spanContext? = some sc)
    {cx' : Context} (h : cx'.metadata = some (standard.inject cx md)) :
    (md.values parentKey = [] → md.values stateKey = [] →
        extractParent cx' standard = .ok sc.received) ∧
      (md.values parentKey = [] → md.values stateKey ≠ [] →
        extractParent cx' standard
          = .ok { sc.received with state := readState (md.get? stateField) }) ∧
      (md.values parentKey ≠ [] → md.values stateKey = [] →
        extractParent cx' standard
          = parentOf ((decode? (md.get? parentField) none).map fun older =>
              { older with state := sc.state })) ∧
      (md.values parentKey ≠ [] → md.values stateKey ≠ [] → ∀ before : Context,
        before.metadata = some md →
          extractParent cx' standard = extractParent before standard) := by
  have hdecoded := extractParent_of_injected hsc hcx h
  simp only [Metadata.firstText] at hdecoded
  refine ⟨?_, ?_, ?_, ?_⟩
  · intro hparent hstate
    rw [hdecoded, if_pos hparent, if_pos hstate, decode?_encoded hsc.valid]
    rfl
  · intro hparent hstate
    rw [hdecoded, if_pos hparent, if_neg hstate, decode?_state]
    have hids := decode?_encoded hsc.valid
    rw [decode?_state] at hids
    obtain ⟨ids, hsome, hreceived⟩ := Option.map_eq_some_iff.mp hids
    rw [hsome, ← hreceived]
    rfl
  · intro hparent hstate
    rw [hdecoded, if_neg hparent, if_pos hstate, decode?_state, readState_text]
    rfl
  · intro hparent hstate before hbefore
    rw [hdecoded, if_neg hparent, if_neg hstate, extractParent_of_present hbefore hparent hstate]
    rfl

end Injected

-- ---------------------------------------------------------------------------
-- A proxy that passes on what it got
-- ---------------------------------------------------------------------------

/-- The span context of a first hop, without flags. -/
def firstHop : SpanContext := ⟨1, 1, 0, false, ∅⟩

/-- The span context of a second hop, in a trace of its own. -/
def secondHop : SpanContext := ⟨2, 2, 1, false, ∅⟩

theorem injectable_firstHop : Injectable firstHop :=
  ⟨rfl, List.all_eq_true.mp rfl⟩

theorem injectable_secondHop : Injectable secondHop :=
  ⟨rfl, List.all_eq_true.mp rfl⟩

def sentMetadata : Metadata := standard.inject (Context.empty.withRemote firstHop) ∅

/-- What the second hop makes of it when it passes it on. -/
def passedOn (md : Metadata) : Metadata := standard.inject (Context.empty.withRemote secondHop) md

theorem values_sentMetadata :
    sentMetadata.values parentKey ≠ [] ∧ sentMetadata.values stateKey ≠ [] :=
  ⟨values_parentKey_inject injectable_firstHop rfl, values_stateKey_inject injectable_firstHop rfl⟩

theorem extractParent_inject_secondHop :
    Injectable secondHop ∧ (Context.empty.withRemote secondHop).spanContext? = some secondHop ∧
      extractParent (Context.empty.withMetadata (passedOn ∅)) standard = .ok secondHop.received ∧
      extractParent (Context.empty.withMetadata (passedOn sentMetadata)) standard
        = extractParent (Context.empty.withMetadata sentMetadata) standard := by
  refine ⟨injectable_secondHop, rfl, ?_, ?_⟩
  · exact (extractParent_inject injectable_secondHop rfl rfl).1 rfl rfl
  · exact (extractParent_inject injectable_secondHop rfl rfl).2.2.2 values_sentMetadata.1
      values_sentMetadata.2 _ rfl

/-- An injection need not be what is extracted: behind the first hop's span context, that of
the second is not read. -/
theorem not_superseded :
    ¬ ∀ (sc : SpanContext) (cx cx' : Context) (md : Metadata), Injectable sc →
        cx.spanContext? = some sc →
        md.values parentKey ≠ [] ∨ md.values stateKey ≠ [] →
        cx'.metadata = some (standard.inject cx md) →
        extractParent cx' standard = .ok sc.received := by
  intro h
  obtain ⟨hparent, hstate⟩ := values_sentMetadata
  have hfirst : decode? (sentMetadata.get? parentKey.text) (sentMetadata.get? stateKey.text)
      = some firstHop.received := by
    show decode? (sentMetadata.get? parentField) (sentMetadata.get? stateField) = _
    rw [sentMetadata, get?_parentField_inject injectable_firstHop rfl,
      get?_stateField_inject injectable_firstHop rfl]
    exact decode?_encoded injectable_firstHop.valid
  have hsecond := h secondHop (Context.empty.withRemote secondHop)
    (Context.empty.withMetadata (passedOn sentMetadata)) sentMetadata injectable_secondHop rfl
    (Or.inl hparent) rfl
  rw [extractParent_of_injected injectable_secondHop rfl rfl, Metadata.firstText,
    Metadata.firstText, if_neg hparent, if_neg hstate, hfirst] at hsecond
  exact absurd (Except.ok.inj hsecond) (by decide)

end Propagator

end CallSpan
