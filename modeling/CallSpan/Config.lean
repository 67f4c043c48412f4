import CallSpan.Files
import CallSpan.Options
import CallSpan.Toml.Document

/-!
# File configuration

Tracing can be configured by a file with three keys: `log_payloads`, off unless
given; `log_errors`, on unless given; and `excluded_methods`, the full names of
methods whose calls are not traced. Other keys are ignored. A configuration is
turned into options, which can stand among others.

* `TracingConfig.ofText?`   — the configuration that a text denotes.
* `TracingConfig.load?`     — the configuration in a file.
* `TracingConfig.options`   — a configuration as options.
-/

namespace CallSpan

/-- Why there is no configuration. -/
inductive ConfigError where
  | unreadable (path : String) (reason : ReadError)
  | malformed
  deriving DecidableEq

def ConfigError.message : ConfigError → String
  | .unreadable path reason => "failed to read config file " ++ path ++ ": " ++ reason.message
  | .malformed => "invalid tracing config"

/-- What a file can say about tracing. -/
structure TracingConfig where
  logPayloads : Bool
  logErrors : Bool
  excludedMethods : List String
  deriving DecidableEq

namespace TracingConfig

/-- What an empty file says. -/
def standard : TracingConfig := ⟨false, true, []⟩

/-- The truth value of a name, or a given one if the name is not defined. -/
def readFlag (entries : Toml.Entries) (name : String) (otherwise : Bool) : Option Bool :=
  match entries.find? name with
  | none => some otherwise
  | some (.boolean b) => some b
  | some _ => none

/-- The text of a tree that is one. -/
def readText : Toml.Tree → Option String
  | .text s => some s
  | _ => none

/-- The texts of a name, none if the name is not defined. -/
def readTexts (entries : Toml.Entries) (name : String) : Option (List String) :=
  match entries.find? name with
  | none => some []
  | some (.array items) => items.mapM readText
  | some _ => none

/-- The configuration in a table. -/
def ofEntries? (entries : Toml.Entries) : Option TracingConfig := do
  let logPayloads ← readFlag entries "log_payloads" standard.logPayloads
  let logErrors ← readFlag entries "log_errors" standard.logErrors
  let excludedMethods ← readTexts entries "excluded_methods"
  some ⟨logPayloads, logErrors, excludedMethods⟩

/-- The configuration that a text denotes. -/
def ofText? (s : String) : Except ConfigError TracingConfig :=
  match (Toml.parse? s).bind ofEntries? with
  | some config => .ok config
  | none => .error .malformed

/-- The configuration in the file at a path. -/
def load? (files : FileSystem) (path : String) : Except ConfigError TracingConfig :=
  match files.readText path with
  | .error reason => .error (.unreadable path reason)
  | .ok s => ofText? s

/-- Traces the calls of all methods but those listed. -/
def exclude (methods : List String) : Predicate := fun i =>
  .done (!methods.contains i.method)

/-- A configuration as options. Without excluded methods there is no predicate among them. -/
def options (c : TracingConfig) : List ServerOption :=
  [.logErrors c.logErrors] ++ (if c.logPayloads then [.logPayloads] else []) ++
    if c.excludedMethods.isEmpty then [] else [.including (exclude c.excludedMethods)]

end TracingConfig

end CallSpan
