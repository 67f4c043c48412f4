import CallSpan.Extraction

/-!
# Steps on metadata

What propagators and users do with metadata, one step after the other: store
texts, append and insert entries, store the fields of a context, and read.

* `CarrierStep.take`  — what a step answers, and the metadata it leaves.
-/

namespace CallSpan.Scenario

inductive CarrierStep where
  | put (name value : String)
  | append (name : String) (field : Field)
  | insert (name : String) (field : Field)
  | inject (cx : Context) (p : Propagator)
  | get (name : String)
  | texts (name : String)
  | pairs
  | keys
  | extract (p : Propagator)

inductive CarrierAnswer where
  | refused (e : MetadataError)
  | metadata (m : Metadata)
  | text (s : Option String)
  | texts (ss : List String)
  | pairs (ps : List (Key × String))
  | keys (ks : List Key)
  | extraction (x : Extraction)

/-- The answer of a change that may be refused. -/
def changed (m : Metadata) : Except MetadataError Metadata → CarrierAnswer × Metadata
  | .ok m' => (.metadata m', m')
  | .error e => (.refused e, m)

/-- What a step answers, and the metadata it leaves. -/
def CarrierStep.take (m : Metadata) : CarrierStep → CarrierAnswer × Metadata
  | put name value => let m' := m.put name value; (.metadata m', m')
  | append name field => changed m (m.append? name field)
  | insert name field => changed m (m.insert? name field)
  | inject cx p => let m' := p.inject cx m; (.metadata m', m')
  | get name => (.text (m.get? name), m)
  | texts name => (.texts (m.texts name), m)
  | pairs => (.pairs (m.textPairs.mergeSort fun a b => !b.1.before a.1), m)
  | keys => (.keys (m.textKeys.mergeSort fun a b => !b.before a), m)
  | extract p => (.extraction (CallSpan.extract ((∅ : Context).withMetadata m) p), m)

def takeCarrierSteps (m : Metadata) : List CarrierStep → List CarrierAnswer
  | [] => []
  | step :: steps =>
    let (answer, m') := step.take m
    answer :: takeCarrierSteps m' steps

end CallSpan.Scenario
