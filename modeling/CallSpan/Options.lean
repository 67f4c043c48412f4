import CallSpan.Interceptor

/-!
# Options

An interceptor is configured by a list of **options**, which are applied in order
to the standard configuration. A later option of the same sort replaces an
earlier one; payload logging, once on, stays on.

* `Options.ofList`             — the configuration of a list of options.
* `Options.unaryInterceptor`   — the tracing interceptor for unary calls.
* `Options.streamInterceptor`  — the tracing interceptor for streaming calls.
-/

namespace CallSpan

open Text

/-- The configuration of a tracing interceptor. -/
structure Options extends TracingPolicy where
  unaryDelegate : Option (Interceptor .unary)
  streamDelegate : Option (Interceptor .streaming)

/-- One change to a configuration. -/
inductive ServerOption where
  | logPayloads
  | logErrors (enabled : Bool)
  | including (predicate : Predicate)
  | decorator (decorator : Decorator)
  | unaryInterceptor (interceptor : Interceptor .unary)
  | streamInterceptor (interceptor : Interceptor .streaming)
  | propagator (propagator : Propagator)

/-- The configuration with one change. -/
def ServerOption.apply (o : Options) : ServerOption → Options
  | logPayloads => { o with logPayloads := true }
  | logErrors enabled => { o with logErrors := enabled }
  | including predicate => { o with predicate := some predicate }
  | decorator d => { o with decorator := some d }
  | unaryInterceptor i => { o with unaryDelegate := some i }
  | streamInterceptor i => { o with streamDelegate := some i }
  | propagator p => { o with propagator := p }

namespace Options

def standard : Options := ⟨TracingPolicy.standard, none, none⟩

/-- The standard configuration with changes made in order. -/
def ofList (changes : List ServerOption) : Options :=
  changes.foldl ServerOption.apply standard

def unaryInterceptor (o : Options) : Interceptor .unary :=
  .tracing o.toTracingPolicy o.unaryDelegate

def streamInterceptor (o : Options) : Interceptor .streaming :=
  .tracing o.toTracingPolicy o.streamDelegate

/-- The tracing interceptor for calls of a mode. -/
def interceptor (o : Options) : (m : Mode) → Interceptor m
  | .unary => o.unaryInterceptor
  | .streaming => o.streamInterceptor

/-- What is shown of a configuration: of hooks and delegates only whether there are any. -/
def display (o : Options) : Display :=
  .record "ServerOptions"
    [("log_payloads", .ofBool o.logPayloads), ("log_errors", .ofBool o.logErrors),
      ("inclusion", .ofBool o.predicate.isSome), ("decorator", .ofBool o.decorator.isSome),
      ("unary_interceptor", .ofBool o.unaryDelegate.isSome),
      ("stream_interceptor", .ofBool o.streamDelegate.isSome)]
    true

end Options

end CallSpan
