import CallSpan.Proofs.CarrierViews
import CallSpan.Proofs.Verdicts

/-!
# What an extraction goes by

Whether a call has a parent is found out on two paths. The propagator decodes what a carrier lets
it **read** under its fields, and if no valid span context comes of that, metadata is asked under
which fields it **has** entries. The paths do not see the same: a carrier reads the first entry
under a field, if it is visible, while any entry counts as there.

Still both are settled by the first entry under each field: whether there is one, and whether it
can be read. So an entry behind it makes no difference, and neither does one under a name that is
no field.

* `Metadata.isPresent_iff`  — a name is present when an entry is under it, readable or not.
* `extract_congr`           — the same first entries give the same extraction.
* `goesBy_extract`          — the three outcomes, and what does not change them.
-/

namespace CallSpan

open Text

namespace Metadata

variable {m m' : Metadata} {name : String}

-- ---------------------------------------------------------------------------
-- Entries under a name
-- ---------------------------------------------------------------------------

theorem isPresent_iff : m.isPresent name = true ↔ m.octetsUnder name ≠ [] := by
  rw [isPresent]
  cases hvalid : isKeyText (lower name) with
  | true =>
    rw [Key.ofText?_of_isKeyText hvalid, m.octetsUnder_key (k := ⟨lower name, hvalid⟩) rfl, ne_eq,
      values_eq_nil_iff, Decidable.not_not]
    exact List.contains_iff_mem
  | false =>
    rw [Key.ofText?_eq_none hvalid, m.octetsUnder_eq_nil hvalid]
    exact iff_of_false Bool.false_ne_true fun h => h rfl

/-- What is read under a name is its first entry, if that one can be read. -/
theorem get?_eq_head? (h : namesBinary name = false) :
    m.get? name = (m.octetsUnder name).head?.bind text? := by
  rw [get?, m.lookup_eq_entries h]

/-- Nothing is read under a name whose first entry cannot be read. -/
theorem get?_of_unreadable (h : namesBinary name = false) {octets : List UInt8}
    {further : List (List UInt8)} (hunder : m.octetsUnder name = octets :: further)
    (hoctets : octets.all isVisible = false) : m.get? name = none := by
  rw [get?_eq_head? h, hunder, List.head?_cons, Option.bind_some, text?,
    if_neg (Bool.eq_false_iff.mp hoctets)]

/-- Entries appended one by one. -/
def appendAll (m : Metadata) (es : List (Key × List UInt8)) : Metadata :=
  es.foldl (fun acc e => acc.append e.1 e.2) m

/-- The first entry under a name stays the first, as long as there was one before any other was
appended under the name. -/
theorem head?_octetsUnder_appendAll {es : List (Key × List UInt8)}
    (h : ∀ e ∈ es, e.1.text = lower name → m.octetsUnder name ≠ []) :
    ((m.appendAll es).octetsUnder name).head? = (m.octetsUnder name).head? := by
  cases hvalid : isKeyText (lower name) with
  | false => rw [octetsUnder_eq_nil _ hvalid, octetsUnder_eq_nil _ hvalid]
  | true =>
    let k : Key := ⟨lower name, hvalid⟩
    have happended : (m.appendAll es).octetsUnder name
        = m.octetsUnder name ++ (es.filter (·.1 = k)).map Prod.snd := by
      rw [octetsUnder_key (k := k) _ rfl, octetsUnder_key (k := k) _ rfl, appendAll,
        values_foldl_append]
    rw [happended]
    cases hunder : m.octetsUnder name with
    | cons first further => rfl
    | nil =>
      have hnone : es.filter (·.1 = k) = [] := by
        refine List.filter_eq_nil_iff.mpr fun e he hk => ?_
        exact h e he (congrArg Key.text (of_decide_eq_true hk)) hunder
      rw [hnone]
      rfl

/-- The same first entries, or none, under each of some names. -/
def SameFirst (names : List String) (m m' : Metadata) : Prop :=
  ∀ name ∈ names, (m.octetsUnder name).head? = (m'.octetsUnder name).head?

theorem SameFirst.isPresent_eq {names : List String} (h : SameFirst names m m')
    (hname : name ∈ names) : m.isPresent name = m'.isPresent name := by
  have hnil : ∀ md : Metadata,
      md.isPresent name = true ↔ ¬ (md.octetsUnder name).head? = none := by
    intro md
    rw [isPresent_iff, List.head?_eq_none_iff]
  rw [Bool.eq_iff_iff, hnil, hnil, h name hname]

end Metadata

open Metadata (SameFirst)

-- ---------------------------------------------------------------------------
-- The fields of a propagator
-- ---------------------------------------------------------------------------

namespace Propagator

variable {p : Propagator} {m m' : Metadata} {field : String}

theorem eq_of_mem_fields (h : field ∈ p.fields) : field = TraceParent.parentField ∨
    field = TraceParent.stateField ∨ field = BaggageHeader.field := by
  obtain ⟨part, -, hfield⟩ := List.mem_flatMap.mp h
  cases part with
  | traceContext =>
    rcases List.mem_cons.mp hfield with h | hfield
    · exact Or.inl h
    · exact Or.inr (Or.inl (List.mem_singleton.mp hfield))
  | baggage => exact Or.inr (Or.inr (List.mem_singleton.mp hfield))

/-- A field is in lower case, and no name of binary entries. -/
theorem field_spec (h : field ∈ p.fields) : lower field = field ∧ namesBinary field = false := by
  rcases eq_of_mem_fields h with rfl | rfl | rfl <;> decide

theorem get?_eq_of_sameFirst (h : SameFirst p.fields m m') (hfield : field ∈ p.fields) :
    m.get? field = m'.get? field := by
  have htext := (field_spec hfield).2
  rw [Metadata.get?_eq_head? htext, Metadata.get?_eq_head? htext, h field hfield]

/-- A part reads nothing but its fields. -/
theorem Part.decode_congr {part : Part} (h : ∀ f ∈ part.fields, m.get? f = m'.get? f)
    (cx : Context) : part.decode m cx = part.decode m' cx := by
  cases part with
  | traceContext =>
    have hparent : m.get? TraceParent.parentField = m'.get? TraceParent.parentField :=
      h _ List.mem_cons_self
    have hstate : m.get? TraceParent.stateField = m'.get? TraceParent.stateField :=
      h _ (List.mem_cons_of_mem _ List.mem_cons_self)
    simp only [Part.decode, hparent, hstate]
  | baggage =>
    have hbaggage : m.get? BaggageHeader.field = m'.get? BaggageHeader.field :=
      h _ List.mem_cons_self
    simp only [Part.decode, hbaggage]

theorem decode_congr (p : Propagator) (h : ∀ f ∈ p.fields, m.get? f = m'.get? f) (cx : Context) :
    p.decode m cx = p.decode m' cx := by
  induction p generalizing cx with
  | nil => rfl
  | cons part parts ih =>
    rw [fields, List.flatMap_cons, List.forall_mem_append] at h
    unfold decode at ih ⊢
    rw [List.foldl_cons, List.foldl_cons, Part.decode_congr h.1 cx]
    exact ih h.2 _

end Propagator

-- ---------------------------------------------------------------------------
-- Extraction
-- ---------------------------------------------------------------------------

variable {cx cx' : Context} {p : Propagator}

/-- The fields that have entries, readable or not, in their order. -/
def Propagator.entered (p : Propagator) (m : Metadata) : List String :=
  p.fields.filter fun field => m.octetsUnder field ≠ []

theorem Propagator.entered_eq_nil_iff {m : Metadata} :
    p.entered m = [] ↔ ∀ field ∈ p.fields, m.octetsUnder field = [] := by
  rw [entered, List.filter_eq_nil_iff]
  simp only [decide_eq_true_eq, ne_eq, Decidable.not_not]

theorem Propagator.filter_isPresent (p : Propagator) (m : Metadata) :
    p.fields.filter m.isPresent = p.entered m := by
  refine List.filter_congr fun field _ => ?_
  rw [Bool.eq_iff_iff, Metadata.isPresent_iff, decide_eq_true_eq]

theorem ExtractError.classify_eq_notFound_iff {m : Metadata} :
    classify m p = .notFound ↔ p.entered m = [] := by
  rw [classify, p.filter_isPresent]
  cases p.entered m with
  | nil => exact iff_of_true rfl rfl
  | cons field further => constructor <;> intro h <;> cases h

theorem ExtractError.classify_eq_malformed_iff {m : Metadata} {fields : List String} :
    classify m p = .malformed fields ↔ fields ≠ [] ∧ fields = p.entered m := by
  rw [classify, p.filter_isPresent]
  cases p.entered m with
  | nil =>
    constructor
    · intro h
      cases h
    · rintro ⟨hne, rfl⟩
      exact absurd rfl hne
  | cons field further =>
    constructor
    · intro h
      cases h
      exact ⟨List.cons_ne_nil _ _, rfl⟩
    · rintro ⟨-, rfl⟩
      rfl

theorem ExtractError.classify_congr {m m' : Metadata} (h : SameFirst p.fields m m') :
    classify m p = classify m' p := by
  have hfields : p.fields.filter m.isPresent = p.fields.filter m'.isPresent :=
    List.filter_congr fun _ hfield => h.isPresent_eq hfield
  rw [classify, classify, hfields]

/-- Metadata with the same first entries under the fields gives the same extraction, whatever
else the contexts hold. -/
theorem extract_congr (h : SameFirst p.fields (cx.metadata.getD ∅) (cx'.metadata.getD ∅)) :
    extract cx p = extract cx' p := by
  have hdecode : p.decode (cx.metadata.getD ∅) ∅ = p.decode (cx'.metadata.getD ∅) ∅ :=
    p.decode_congr (fun _ hfield => Propagator.get?_eq_of_sameFirst h hfield) ∅
  unfold extract
  dsimp only
  rw [hdecode, ExtractError.classify_congr h]

/-- There is a parent when a valid span context is decoded. -/
theorem parent_extract_eq_ok_iff {sc : SpanContext} : (extract cx p).parent = .ok sc ↔
    (extract cx p).decoded.spanContext? = some sc ∧ sc.isValid = true := by
  rw [← Option.filter_eq_some_iff, decoded_extract]
  unfold extract
  dsimp only
  split
  · rename_i h
    rw [h, Option.some_inj]
    exact ⟨Except.ok.inj, congrArg Except.ok⟩
  · rename_i h
    rw [h]
    exact iff_of_false (fun h => nomatch h) fun h => nomatch h

/-- Otherwise metadata tells what is missing. -/
theorem parent_extract_eq_error_iff {e : ExtractError} : (extract cx p).parent = .error e ↔
    (∀ sc, (extract cx p).parent ≠ .ok sc) ∧ ExtractError.classify (cx.metadata.getD ∅) p = e := by
  unfold extract
  dsimp only
  split
  · exact iff_of_false (fun h => nomatch h) fun h => h.1 _ rfl
  · exact ⟨fun h => ⟨fun _ h' => (nomatch h'), Except.error.inj h⟩, fun h => congrArg _ h.2⟩

/-- What is said of what a propagator extracts from metadata. -/
structure Extraction.GoesBy (x : Extraction) (p : Propagator) (m : Metadata) : Prop where
  /-- What is decoded begins with nothing. -/
  decoded : x.decoded = p.decode m ∅
  /-- There is a parent when a valid span context is decoded: one with both ids. -/
  ok : ∀ sc, x.parent = .ok sc ↔
    x.decoded.spanContext? = some sc ∧ sc.traceId ≠ 0 ∧ sc.spanId ≠ 0
  /-- If not, none is found when no field has an entry, -/
  notFound : x.parent = .error .notFound ↔
    (∀ sc, x.parent ≠ .ok sc) ∧ ∀ field ∈ p.fields, m.octetsUnder field = []
  /-- and when fields have entries, it is malformed in these. -/
  malformed : ∀ fields, x.parent = .error (.malformed fields) ↔
    (∀ sc, x.parent ≠ .ok sc) ∧ fields ≠ [] ∧ fields = p.entered m
  /-- The text of an error names them between commas. -/
  message : ∀ e, x.parent = .error e → e.message =
    if p.entered m = [] then "span context not found in gRPC metadata"
    else "malformed span context in gRPC metadata (fields: "
      ++ ",".intercalate (p.entered m) ++ ")"
  /-- An entry that cannot be read is one all the same. -/
  unreadable : ∀ field ∈ p.fields, ∀ octets further,
    m.octetsUnder field = octets :: further → octets.all isVisible = false →
      m.get? field = none ∧ field ∈ p.entered m
  /-- Other metadata with the same first entries under the fields gives the same, -/
  first : ∀ cx : Context, SameFirst p.fields (cx.metadata.getD ∅) m → extract cx p = x
  /-- and so do entries that are added behind the first under a field, or under names that are no
  fields. -/
  added : ∀ (cx : Context) (es : List (Key × List UInt8)),
    (∀ e ∈ es, e.1.text ∈ p.fields → m.octetsUnder e.1.text ≠ []) →
      extract (cx.withMetadata (m.appendAll es)) p = x

/-- What comes of an extraction, and what makes no difference to it. -/
theorem goesBy_extract (cx : Context) (p : Propagator) :
    (extract cx p).GoesBy p (cx.metadata.getD ∅) := by
  let m := cx.metadata.getD ∅
  have hfirst : ∀ cx' : Context, SameFirst p.fields (cx'.metadata.getD ∅) m →
      extract cx' p = extract cx p := fun _ h => extract_congr h
  have hok : ∀ sc, (extract cx p).parent = .ok sc ↔
      (extract cx p).decoded.spanContext? = some sc ∧ sc.traceId ≠ 0 ∧ sc.spanId ≠ 0 := fun _ =>
    parent_extract_eq_ok_iff.trans (and_congr_right fun _ => SpanContext.isValid_iff)
  refine ⟨decoded_extract cx p, hok, ?_, fun fields => ?_, ?_, ?_, hfirst, ?_⟩
  · rw [parent_extract_eq_error_iff, ExtractError.classify_eq_notFound_iff,
      Propagator.entered_eq_nil_iff]
  · rw [parent_extract_eq_error_iff, ExtractError.classify_eq_malformed_iff]
  · intro e he
    have hclassify := (parent_extract_eq_error_iff.mp he).2
    cases e with
    | notFound => exact (if_pos (ExtractError.classify_eq_notFound_iff.mp hclassify)).symm
    | malformed fields =>
      obtain ⟨hfields, rfl⟩ := ExtractError.classify_eq_malformed_iff.mp hclassify
      exact (if_neg hfields).symm
  · intro field hfield octets further hunder hoctets
    refine ⟨Metadata.get?_of_unreadable (Propagator.field_spec hfield).2 hunder hoctets, ?_⟩
    refine List.mem_filter.mpr ⟨hfield, decide_eq_true ?_⟩
    rw [hunder]
    exact List.cons_ne_nil _ _
  · intro cx' es hes
    refine hfirst _ fun field hfield => Metadata.head?_octetsUnder_appendAll fun e he hkey => ?_
    -- the entry is under the field itself, since fields are in lower case
    rw [(Propagator.field_spec hfield).1] at hkey
    rw [← hkey] at hfield ⊢
    exact hes e he hfield

/-- A text that was stored but cannot be read makes its field malformed. -/
example : (extract (Context.empty.withMetadata (Metadata.empty.put "traceparent" "é"))
    [.traceContext, .baggage]).parent = .error (.malformed ["traceparent"]) := rfl

end CallSpan
