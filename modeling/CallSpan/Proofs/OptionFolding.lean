import CallSpan.Config
import CallSpan.Proofs.ParentOutcome
import Mathlib.Data.List.Basic

/-!
# What a list of options comes to

Options are applied one after the other to one record, and a configuration in their midst is
spliced in as one to three of them, by what it holds. What the record holds in the end is **read
off** the list, each field on its own. Payload logging is **sticky**: it is on if anything in the
list turns it on. For every other field the **last** that says something about it decides. A
configuration always says something about the logging of errors, and about the predicate only if
it excludes methods: so one without excluded methods turns the logging of errors on or off again,
and leaves the predicate before it in force.

Options for different fields commute, and so do configurations and options that have no field in
common.

Main result:

* `Options.ofSources_folded` — the readings of the fields, the order of options for different
  fields, and which calls are traced if the methods that a configuration excludes decide.
-/

namespace CallSpan

variable {m : Mode} {σ α : Type}

-- ---------------------------------------------------------------------------
-- What options and configurations say
-- ---------------------------------------------------------------------------

/-- What stands in a list of options: an option, or a configuration that is spliced in. -/
inductive OptionSource where
  | given (o : ServerOption)
  | file (c : TracingConfig)

namespace ServerOption

def logErrors? : ServerOption → Option Bool
  | logErrors enabled => some enabled
  | _ => none

def predicate? : ServerOption → Option Predicate
  | including predicate => some predicate
  | _ => none

def decorator? : ServerOption → Option Decorator
  | decorator d => some d
  | _ => none

def delegate? : (m : Mode) → ServerOption → Option (Interceptor m)
  | .unary, unaryInterceptor i => some i
  | .streaming, streamInterceptor i => some i
  | _, _ => none

def propagator? : ServerOption → Option Propagator
  | propagator p => some p
  | _ => none

def isLogPayloads : ServerOption → Bool
  | logPayloads => true
  | _ => false

end ServerOption

/-- The predicate of a configuration, if it excludes methods. -/
def TracingConfig.predicate? (c : TracingConfig) : Option Predicate :=
  if c.excludedMethods.isEmpty then none else some (exclude c.excludedMethods)

namespace OptionSource

def options : OptionSource → List ServerOption
  | given o => [o]
  | file c => c.options

/-- What is said of a field, given what options and configurations say of it. -/
def said (ofOption : ServerOption → Option α) (ofFile : TracingConfig → Option α) :
    OptionSource → Option α
  | given o => ofOption o
  | file c => ofFile c

def predicate? : OptionSource → Option Predicate :=
  said ServerOption.predicate? TracingConfig.predicate?

/-- What is said last of a field. -/
def last (ofOption : ServerOption → Option α) (ofFile : TracingConfig → Option α)
    (sources : List OptionSource) : Option α :=
  (sources.filterMap (said ofOption ofFile)).getLast?

end OptionSource

namespace Options

/-- The standard configuration with the options of a list made in order, and each configuration
in it spliced in at its place. -/
def ofSources (sources : List OptionSource) : Options :=
  ofList (sources.flatMap OptionSource.options)

/-- What the fields hold, by the list that they come from. -/
structure ReadOff (o : Options) (sources : List OptionSource) : Prop where
  /-- Payloads are logged exactly if something in the list turns that on. -/
  logPayloads : o.logPayloads = true ↔
    .given .logPayloads ∈ sources ∨ ∃ c, .file c ∈ sources ∧ c.logPayloads = true
  /-- Every configuration says whether errors are logged, and they are if nothing does. -/
  logErrors : o.logErrors
    = (OptionSource.last ServerOption.logErrors? (fun c => some c.logErrors) sources).getD true
  /-- A configuration that excludes no methods says nothing of the predicate. -/
  predicate : o.predicate
    = OptionSource.last ServerOption.predicate? TracingConfig.predicate? sources
  /-- The predicate in force is asked, and without one everything is admitted. -/
  includes : ∀ i, o.includes i
    = ((OptionSource.last ServerOption.predicate? TracingConfig.predicate? sources).map
        fun predicate => predicate i).getD (.done true)
  decorator : o.decorator = OptionSource.last ServerOption.decorator? (fun _ => none) sources
  /-- The delegate for unary calls, and that for streaming calls. -/
  delegate : ∀ m, o.delegate m
    = OptionSource.last (ServerOption.delegate? m) (fun _ => none) sources
  propagator : o.propagator
    = (OptionSource.last ServerOption.propagator? (fun _ => none) sources).getD
        Propagator.standard

end Options

-- ---------------------------------------------------------------------------
-- The last that is ofOption decides
-- ---------------------------------------------------------------------------

/-- If each option sets a field to what it says of it and leaves it as it is otherwise, then the
field is in the end what was said last. -/
theorem Options.field_foldl {field : Options → Option α} {ofOption : ServerOption → Option α}
    (happly : ∀ (o : Options) (c : ServerOption), field (c.apply o) = (ofOption c).or (field o))
    (changes : List ServerOption) (o : Options) :
    field (changes.foldl ServerOption.apply o)
      = (changes.filterMap ofOption).getLast?.or (field o) := by
  induction changes generalizing o with
  | nil => rfl
  | cons c changes ih =>
    rw [List.foldl_cons, ih, happly]
    cases hc : ofOption c with
    | none => rw [List.filterMap_cons_none hc, Option.none_or]
    | some a =>
      rw [List.filterMap_cons_some hc, List.getLast?_cons]
      cases (changes.filterMap ofOption).getLast? <;> rfl

/-- What is said by the options of a configuration, in order. -/
theorem TracingConfig.filterMap_options (c : TracingConfig) (ofOption : ServerOption → Option α) :
    c.options.filterMap ofOption
      = (ofOption (.logErrors c.logErrors)).toList
        ++ (if c.logPayloads then (ofOption .logPayloads).toList else [])
        ++ (if c.excludedMethods.isEmpty then []
          else (ofOption (.including (exclude c.excludedMethods))).toList) := by
  have hone : ∀ o : ServerOption, [o].filterMap ofOption = (ofOption o).toList := by
    intro o
    rw [List.filterMap_cons]
    cases ofOption o <;> rfl
  rw [options, List.filterMap_append, List.filterMap_append, hone]
  congr 1
  · congr 1
    split <;> simp only [hone, List.filterMap_nil]
  · split <;> simp only [hone, List.filterMap_nil]

namespace OptionSource

/-- What is said by a list with configurations spliced in is what its members say. -/
theorem filterMap_flatMap_options {ofOption : ServerOption → Option α}
    {ofFile : TracingConfig → Option α}
    (hfile : ∀ c : TracingConfig, c.options.filterMap ofOption = (ofFile c).toList)
    (sources : List OptionSource) :
    (sources.flatMap options).filterMap ofOption = sources.filterMap (said ofOption ofFile) := by
  have hsource : ∀ s : OptionSource,
      s.options.filterMap ofOption = (said ofOption ofFile s).toList := by
    intro s
    cases s with
    | file c => exact hfile c
    | given o =>
      rw [options, List.filterMap_cons, said]
      cases ofOption o <;> rfl
  rw [List.filterMap_flatMap, List.filterMap_eq_flatMap_toList]
  simp only [hsource]

/-- What is said of a field by the last that says something of it is said last. -/
theorem last_of_silent {ofOption : ServerOption → Option α} {ofFile : TracingConfig → Option α}
    {before after : List OptionSource} {s : OptionSource} {a : α}
    (hs : said ofOption ofFile s = some a)
    (hafter : ∀ x ∈ after, said ofOption ofFile x = none) :
    last ofOption ofFile (before ++ s :: after) = some a := by
  rw [last, List.filterMap_append, List.filterMap_cons_some hs,
    List.filterMap_eq_nil_iff.mpr hafter, List.getLast?_concat]

end OptionSource

theorem TracingPolicy.includes_eq (p : TracingPolicy) (i : Inquiry) :
    p.includes i = (p.predicate.map fun predicate => predicate i).getD (.done true) := by
  rw [includes]
  cases p.predicate <;> rfl

namespace Options

open OptionSource (last)

section Reading

variable {ofOption : ServerOption → Option α} {ofFile : TracingConfig → Option α}
  (hfile : ∀ c : TracingConfig, c.options.filterMap ofOption = (ofFile c).toList)

include hfile

/-- The reading of one field, from what an option says of it and what the options of a
configuration do. -/
theorem field_ofSources {field : Options → Option α}
    (happly : ∀ (o : Options) (c : ServerOption), field (c.apply o) = (ofOption c).or (field o))
    (sources : List OptionSource) :
    field (ofSources sources) = (last ofOption ofFile sources).or (field standard) := by
  rw [ofSources, ofList, field_foldl happly, OptionSource.filterMap_flatMap_options hfile, last]

/-- A field that holds nothing at first. -/
theorem optional_ofSources (field : Options → Option α) (hstandard : field standard = none)
    (happly : ∀ (o : Options) (c : ServerOption), field (c.apply o) = (ofOption c).or (field o))
    (sources : List OptionSource) :
    field (ofSources sources) = last ofOption ofFile sources := by
  rw [field_ofSources hfile happly, hstandard, Option.or_none]

/-- A field that always holds something. -/
theorem required_ofSources (field : Options → α)
    (happly : ∀ (o : Options) (c : ServerOption),
      field (c.apply o) = (ofOption c).getD (field o))
    (sources : List OptionSource) :
    field (ofSources sources) = (last ofOption ofFile sources).getD (field standard) := by
  let held (o : Options) : Option α := some (field o)
  have hheld : ∀ (o : Options) (c : ServerOption), held (c.apply o) = (ofOption c).or (held o) := by
    intro o c
    rw [Option.or_some, ← happly]
  have hread : held (ofSources sources) = _ := field_ofSources hfile hheld sources
  rwa [Option.or_some, Option.some_inj] at hread

end Reading

/-- What no configuration says anything of. -/
theorem filterMap_options_none {ofOption : ServerOption → Option α}
    (herrors : ∀ enabled, ofOption (.logErrors enabled) = none)
    (hpayloads : ofOption .logPayloads = none)
    (hincluding : ∀ predicate, ofOption (.including predicate) = none) (c : TracingConfig) :
    c.options.filterMap ofOption = (none : Option α).toList := by
  rw [TracingConfig.filterMap_options, herrors, hpayloads, hincluding]
  simp

-- ---------------------------------------------------------------------------
-- The fields
-- ---------------------------------------------------------------------------

theorem logPayloads_foldl (changes : List ServerOption) (o : Options) :
    (changes.foldl ServerOption.apply o).logPayloads
      = (o.logPayloads || changes.any ServerOption.isLogPayloads) := by
  induction changes generalizing o with
  | nil => rw [List.foldl_nil, List.any_nil, Bool.or_false]
  | cons c changes ih =>
    rw [List.foldl_cons, ih, List.any_cons, ← Bool.or_assoc]
    congr 1
    cases c <;> simp [ServerOption.apply, ServerOption.isLogPayloads]

theorem logPayloads_ofSources (sources : List OptionSource) :
    (ofSources sources).logPayloads = true ↔
      .given .logPayloads ∈ sources ∨ ∃ c, .file c ∈ sources ∧ c.logPayloads = true := by
  have hfile : ∀ c : TracingConfig, c.options.any ServerOption.isLogPayloads = c.logPayloads := by
    intro c
    rw [TracingConfig.options]
    cases c.logPayloads <;> cases c.excludedMethods.isEmpty <;> rfl
  rw [ofSources, ofList, logPayloads_foldl, List.any_flatMap]
  show (false || _) = true ↔ _
  rw [Bool.false_or, List.any_eq_true]
  constructor
  · rintro ⟨s, hs, hpayloads⟩
    cases s with
    | file c => exact Or.inr ⟨c, hs, hfile c ▸ hpayloads⟩
    | given o =>
      cases o with
      | logPayloads => exact Or.inl hs
      | _ => cases hpayloads
  · rintro (hs | ⟨c, hc, hpayloads⟩)
    · exact ⟨_, hs, rfl⟩
    · exact ⟨_, hc, (hfile c).trans hpayloads⟩

theorem logErrors_ofSources (sources : List OptionSource) :
    (ofSources sources).logErrors
      = (last ServerOption.logErrors? (fun c => some c.logErrors) sources).getD true := by
  refine required_ofSources ?_ (fun o => o.logErrors) ?_ sources
  · intro c
    rw [TracingConfig.filterMap_options]
    simp [ServerOption.logErrors?]
  · intro o c
    cases c <;> rfl

theorem predicate_ofSources (sources : List OptionSource) :
    (ofSources sources).predicate
      = last ServerOption.predicate? TracingConfig.predicate? sources := by
  refine optional_ofSources ?_ (fun o => o.predicate) rfl ?_ sources
  · intro c
    rw [TracingConfig.filterMap_options, TracingConfig.predicate?]
    cases c.logPayloads <;> cases c.excludedMethods.isEmpty <;> rfl
  · intro o c
    cases c <;> rfl

theorem decorator_ofSources (sources : List OptionSource) :
    (ofSources sources).decorator
      = last ServerOption.decorator? (fun _ => none) sources := by
  refine optional_ofSources ?_ (fun o => o.decorator) rfl ?_ sources
  · exact filterMap_options_none (fun _ => rfl) rfl fun _ => rfl
  · intro o c
    cases c <;> rfl

theorem delegate_ofSources (m : Mode) (sources : List OptionSource) :
    (ofSources sources).delegate m
      = last (ServerOption.delegate? m) (fun _ => none) sources := by
  refine optional_ofSources ?_ (fun o => o.delegate m) ?_ ?_ sources
  · cases m <;> exact filterMap_options_none (fun _ => rfl) rfl fun _ => rfl
  · cases m <;> rfl
  · intro o c
    cases m <;> cases c <;> rfl

theorem propagator_ofSources (sources : List OptionSource) :
    (ofSources sources).propagator
      = (last ServerOption.propagator? (fun _ => none) sources).getD Propagator.standard := by
  refine required_ofSources ?_ (fun o => o.propagator) ?_ sources
  · exact filterMap_options_none (fun _ => rfl) rfl fun _ => rfl
  · intro o c
    cases c <;> rfl

theorem readOff_ofSources (sources : List OptionSource) :
    (ofSources sources).ReadOff sources where
  logPayloads := logPayloads_ofSources sources
  logErrors := logErrors_ofSources sources
  predicate := predicate_ofSources sources
  includes i := by rw [TracingPolicy.includes_eq, predicate_ofSources]
  decorator := decorator_ofSources sources
  delegate m := delegate_ofSources m sources
  propagator := propagator_ofSources sources

end Options

-- ---------------------------------------------------------------------------
-- The order of options for different fields
-- ---------------------------------------------------------------------------

/-- What an option can be for. -/
inductive OptionField where
  | logPayloads
  | logErrors
  | predicate
  | decorator
  | unaryDelegate
  | streamDelegate
  | propagator
  deriving DecidableEq

namespace ServerOption

def field : ServerOption → OptionField
  | logPayloads => .logPayloads
  | logErrors _ => .logErrors
  | including _ => .predicate
  | decorator _ => .decorator
  | unaryInterceptor _ => .unaryDelegate
  | streamInterceptor _ => .streamDelegate
  | propagator _ => .propagator

/-- Options for different fields commute. -/
theorem apply_comm {a b : ServerOption} (h : a.field ≠ b.field) (o : Options) :
    a.apply (b.apply o) = b.apply (a.apply o) := by
  cases a <;> cases b <;> first
    | rfl
    | exact absurd rfl h

/-- An option can be made before or behind others for other fields. -/
theorem foldl_apply {a : ServerOption} {others : List ServerOption}
    (h : ∀ b ∈ others, a.field ≠ b.field) (o : Options) :
    others.foldl apply (a.apply o) = a.apply (others.foldl apply o) := by
  induction others generalizing o with
  | nil => rfl
  | cons b others ih =>
    rw [List.foldl_cons, List.foldl_cons, ← apply_comm (h b List.mem_cons_self)]
    exact ih (fun x hx => h x (List.mem_cons_of_mem b hx)) (b.apply o)

theorem foldl_foldl_comm {xs ys : List ServerOption}
    (h : ∀ a ∈ xs, ∀ b ∈ ys, a.field ≠ b.field) (o : Options) :
    ys.foldl apply (xs.foldl apply o) = xs.foldl apply (ys.foldl apply o) := by
  induction xs generalizing o with
  | nil => rfl
  | cons a xs ih =>
    rw [List.foldl_cons, List.foldl_cons, ih fun x hx => h x (List.mem_cons_of_mem a hx),
      foldl_apply (h a List.mem_cons_self)]

end ServerOption

/-- Two members of a list with no field that is set by both. -/
def OptionSource.Disjoint (s s' : OptionSource) : Prop :=
  ∀ a ∈ s.options, ∀ b ∈ s'.options, a.field ≠ b.field

theorem Options.ofSources_swap {s s' : OptionSource} (h : s.Disjoint s')
    (before after : List OptionSource) :
    ofSources (before ++ s :: s' :: after) = ofSources (before ++ s' :: s :: after) := by
  simp only [ofSources, ofList, List.flatMap_append, List.flatMap_cons, List.foldl_append]
  rw [ServerOption.foldl_foldl_comm h]

-- ---------------------------------------------------------------------------
-- The methods that a configuration excludes
-- ---------------------------------------------------------------------------

/-- A configuration lists a method if it has its name, character by character. -/
def TracingConfig.Lists (c : TracingConfig) (method : String) : Prop :=
  ∃ listed ∈ c.excludedMethods, listed.toList = method.toList

theorem TracingConfig.lists_iff (c : TracingConfig) (method : String) :
    c.Lists method ↔ c.excludedMethods.contains method = true := by
  rw [List.contains_iff_mem]
  constructor
  · rintro ⟨listed, hmem, hchars⟩
    exact String.toList_inj.mp hchars ▸ hmem
  · intro h
    exact ⟨method, h, rfl⟩

namespace TracingPolicy

/-- A call is traced: behind what a layer whose predicate wrote nothing down has to report about
the parent, a server span is started. -/
def Traces (p : TracingPolicy) (info : m.Info) (subject : m.Subject) (w w' : World σ) : Prop :=
  ∃ start : SpanStart, start.isServer = true ∧
    w.recorder.log ++ (p.asking info subject [] ++ [.started (w.recorder.spans + 1) start])
      <+: w'.recorder.log

variable {p : TracingPolicy} {info : m.Info} {subject : m.Subject} {inner : Inside m σ}

theorem traces_admitted
    (h : (p.includes (p.inquiry info subject)).verdict = ([], .returned true))
    (hinner : ∀ s, Call.Grows (inner s)) (w : World σ) :
    p.Traces info subject w (p.around info inner subject w).2 := by
  let j := p.judgement subject true
  let n := w.recorder.spans + 1
  let start : SpanStart := ⟨Mode.methodOf info, true, serverTags, j.parent⟩
  let opened : World σ :=
    ⟨⟨w.recorder.log ++ p.asking info subject [] ++ [.started n start], n⟩, w.client⟩
  -- the span is started before anything else, and what follows adds to the log
  have hafter : ∀ cx, Call.Grows ((p.within cx info inner subject).andFinally
      (·.act .layer cx .finish)) :=
    fun cx => (p.within_grows hinner cx subject).andFinally .layer cx .finish
  refine ⟨start, rfl, ?_⟩
  unfold around
  rw [Call.bind_eq, Call.bind_apply (judge_of_verdict h w), ← List.append_assoc]
  show _ <+: (p.traced j info inner subject (w.after (p.asking info subject []))).2.recorder.log
  rw [traced_eq]
  exact hafter _ opened

theorem not_traces_turnedDown
    (h : (p.includes (p.inquiry info subject)).verdict = ([], .returned false))
    (hinner : ∀ s, Call.Grows (inner s)) (w : World σ) :
    ¬ p.Traces info subject w (p.around info inner subject w).2 := by
  rintro ⟨start, -, hstarted⟩
  rw [around_turnedDown h] at hstarted
  have hasides := hinner subject (w.after (p.asides info subject []))
  -- the report that the call is excluded stands where the span would be started
  have hsame := (List.prefix_of_prefix_length_le hstarted hasides
    (by simp [World.after, asides])).eq_of_length (by simp [World.after, asides])
  have hlast := List.append_cancel_left (List.append_cancel_left hsame)
  cases hlast

end TracingPolicy

namespace Options

/-- What becomes of a call through a tracing interceptor and a chain behind it, if a configuration
decides by the methods that it lists. -/
structure GoesByList (o : Options) (c : TracingConfig) (rest : List (Interceptor m))
    (h : Handler m) (info : m.Info) (subject : m.Subject) (w : World m.Client) : Prop where
  /-- The call is traced exactly if its full method is equal to none that is listed. -/
  traces : o.Traces info subject w
      ((Interceptor.composite (o.interceptor m :: rest)).intercept info h.serve subject w).2 ↔
    ∀ listed ∈ c.excludedMethods, listed.toList ≠ (Mode.methodOf info).toList
  /-- A call of a method that is listed is left alone. -/
  listed : c.Lists (Mode.methodOf info) →
    (Interceptor.composite (o.interceptor m :: rest)).intercept info h.serve subject w
      = Interceptor.through (o.delegate m) info
          ((Interceptor.composite rest).intercept info h.serve) subject
          (w.after (o.asides info subject []))
  /-- Any other call goes through the stages of a call that is admitted. -/
  unlisted : ¬ c.Lists (Mode.methodOf info) →
    (Interceptor.composite (o.interceptor m :: rest)).intercept info h.serve subject w
      = (o.admission info subject [] (Interceptor.through (o.delegate m) info
          ((Interceptor.composite rest).intercept info h.serve)) w).ran

theorem goesByList {o : Options} {c : TracingConfig}
    (ho : o.predicate = some (TracingConfig.exclude c.excludedMethods))
    (rest : List (Interceptor m)) (h : Handler m) (info : m.Info) (subject : m.Subject)
    (w : World m.Client) : o.GoesByList c rest h info subject w := by
  let inner := Interceptor.through (o.delegate m) info
    ((Interceptor.composite rest).intercept info h.serve)
  have hrun : (Interceptor.composite (o.interceptor m :: rest)).intercept info h.serve subject w
      = o.around info inner subject w := by
    rw [Interceptor.intercept_composite_cons, interceptor_eq, Interceptor.intercept]
  have hinner : ∀ s, Call.Grows (inner s) :=
    fun s => Interceptor.through_grows (o.delegate m) rest h info s
  have hverdict : (o.includes (o.inquiry info subject)).verdict
      = ([], .returned (!c.excludedMethods.contains (Mode.methodOf info))) := by
    rw [TracingPolicy.includes, ho]
    rfl
  have hlisted := c.lists_iff (Mode.methodOf info)
  refine ⟨?_, ?_, ?_⟩
  · rw [hrun]
    have hnone : (∀ listed ∈ c.excludedMethods, listed.toList ≠ (Mode.methodOf info).toList) ↔
        ¬ c.Lists (Mode.methodOf info) := by
      simp [TracingConfig.Lists]
    rw [hnone, hlisted]
    cases hmem : c.excludedMethods.contains (Mode.methodOf info) with
    | true =>
      rw [hmem] at hverdict
      exact iff_of_false (TracingPolicy.not_traces_turnedDown hverdict hinner w) (by simp)
    | false =>
      rw [hmem] at hverdict
      exact iff_of_true (TracingPolicy.traces_admitted hverdict hinner w) (by simp)
  · intro hc
    rw [hlisted.mp hc] at hverdict
    rw [hrun, TracingPolicy.around_turnedDown hverdict]
  · intro hc
    rw [hlisted, Bool.not_eq_true] at hc
    rw [hc] at hverdict
    rw [hrun, TracingPolicy.around_admitted hverdict]

/-- **Options.** Whatever options a list has, and whatever configurations are spliced into it at
whatever places: each field of what it comes to is read off the list. Two neighbours in it with no
field in common can be exchanged, and the interceptors stay the same. And if the last that says
something of the predicate is a configuration, whose excluded methods are then not none, a call is
traced exactly if its full method is equal to none of these, character by character. -/
theorem ofSources_folded :
    (∀ sources, (ofSources sources).ReadOff sources) ∧
    (∀ (before after : List OptionSource) (s s' : OptionSource), s.Disjoint s' →
      ∀ m, (ofSources (before ++ s :: s' :: after)).interceptor m
        = (ofSources (before ++ s' :: s :: after)).interceptor m) ∧
    ∀ (before after : List OptionSource) (c : TracingConfig), c.excludedMethods ≠ [] →
      (∀ s ∈ after, s.predicate? = none) →
      ∀ {m : Mode} (rest : List (Interceptor m)) (h : Handler m) (info : m.Info)
        (subject : m.Subject) (w : World m.Client),
        (ofSources (before ++ .file c :: after)).GoesByList c rest h info subject w := by
  refine ⟨readOff_ofSources, ?_, ?_⟩
  · intro before after s s' hdisjoint m
    rw [ofSources_swap hdisjoint]
  · intro before after c hmethods hafter m rest h info subject w
    apply goesByList
    have hc : OptionSource.said ServerOption.predicate? TracingConfig.predicate? (.file c)
        = some (TracingConfig.exclude c.excludedMethods) := by
      rw [OptionSource.said, TracingConfig.predicate?, if_neg (by simpa using hmethods)]
    rw [predicate_ofSources]
    exact OptionSource.last_of_silent hc hafter

/-- Excludes one method. -/
def shopOnly : TracingConfig := ⟨true, false, ["/shop/Buy"]⟩

/-- What comes of that configuration behind a predicate that admits nothing. -/
def ofShopOnly : Options :=
  ofSources [.given (.including fun _ => .done false), .file shopOnly, .given (.logErrors true)]

/-- A call is traced if its method differs from the one that is excluded in the case of a letter. -/
theorem ofSources_folded_shopOnly :
    (OptionSource.given .logPayloads).Disjoint (.given (.logErrors true)) ∧
    (ofSources ([] ++ .given .logPayloads :: .given (.logErrors true) :: [])).interceptor .unary
      = (ofSources ([] ++ .given (.logErrors true) :: .given .logPayloads :: [])).interceptor
          .unary ∧
    shopOnly.excludedMethods ≠ [] ∧
    (∀ s ∈ [OptionSource.given (.logErrors true)], s.predicate? = none) ∧
    ofShopOnly.Traces (m := .unary) ⟨"/shop/buy"⟩ .blank .fresh
      ((Interceptor.composite [ofShopOnly.interceptor .unary]).intercept ⟨"/shop/buy"⟩
        Handler.renaming.serve .blank .fresh).2 := by
  have hdisjoint : (OptionSource.given .logPayloads).Disjoint (.given (.logErrors true)) := by
    intro a ha b hb
    rw [List.mem_singleton.mp ha, List.mem_singleton.mp hb]
    decide
  have hmethods : shopOnly.excludedMethods ≠ [] := List.cons_ne_nil _ _
  have hafter : ∀ s ∈ [OptionSource.given (.logErrors true)], s.predicate? = none := by
    intro s hs
    rw [List.mem_singleton.mp hs]
    rfl
  have hgoes := ofSources_folded.2.2 [.given (.including fun _ => .done false)]
    [.given (.logErrors true)] shopOnly hmethods hafter (m := .unary) [] .renaming ⟨"/shop/buy"⟩
    .blank .fresh
  refine ⟨hdisjoint, ofSources_folded.2.1 [] [] _ _ hdisjoint .unary, hmethods, hafter,
    hgoes.traces.mpr ?_⟩
  intro listed hlisted
  rw [List.mem_singleton.mp hlisted]
  decide

end Options

end CallSpan
