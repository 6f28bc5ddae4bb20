import MarkerLint.Configuration.File
import MarkerLint.Rule.Catalog

/-!
# Services

The parts of the program by the keys under which they are found, and values that others register
under keys of their own or in place of a part. A host holds the services once they are asked for;
after a reset it builds them anew.
-/

namespace MarkerLint

/-- A part of the program that is found under a key. -/
inductive Part where
  | configuration
  | extraction
  | guidance
  | diagnostics
  | rawLog
  | linter
  | report
deriving DecidableEq, Repr

namespace Part

/-- Every part, in the order in which they are built. -/
def all : List Part :=
  [.configuration, .extraction, .guidance, .diagnostics, .rawLog, .linter, .report]

/-- The key of a part. -/
def key : Part → String
  | .configuration => "ConfigurationLoader"
  | .extraction => "AstroidGateway"
  | .guidance => "GuidanceService"
  | .diagnostics => "DiagnosticReporter"
  | .rawLog => "SubprocessLoggingService"
  | .linter => "AabhaLintAdapter"
  | .report => "AuditReporter"

/-- What a part is called: the report goes to a terminal, the other parts are called as their keys.
-/
def name : Part → String
  | .report => "TerminalAuditReporter"
  | p => p.key

end Part

/-- What is found under a key. -/
inductive Service where
  | part (p : Part)
  | value (v : Value)

/-- What a service is called: a value by its kind. -/
def Service.name : Service → String
  | .part p => p.name
  | .value v => v.kind.shortName

/-- The services of a project, with its configuration. -/
structure Services where
  settings : Configuration
  entries : Table Service

namespace Services

/-- The services with their own parts alone. -/
def ofConfiguration (c : Configuration) : Services :=
  ⟨c, Part.all.map fun p => (p.key, .part p)⟩

/-- The service under a key. -/
def get (s : Services) (key : String) : Except Fault Service :=
  match s.entries.get? key with
  | some service => .ok service
  | none => .error (.unregistered key)

/-- Puts a value under a key, in place of what was there. -/
def register (s : Services) (key : String) (v : Value) : Services :=
  { s with entries := s.entries.insert key (.value v) }

/-- The settings, unless a value stands in their place. -/
def configuration (s : Services) : Except Fault Configuration := do
  match ← s.get Part.configuration.key with
  | .part _ => .ok s.settings
  | .value v => .error (.notAConfiguration v.kind)

end Services

/-- A host of services: how often it has built them, and those it holds. -/
structure ServiceHost where
  built : Nat
  held : Option Services

namespace ServiceHost

/-- The host before anything has been asked for. -/
def start : ServiceHost := ⟨0, none⟩

/-- The services and the host that holds them. They are built from the project around a directory if
the host holds none. -/
def obtain (t : FileTree) (here : List String) (h : ServiceHost) :
    Logged (Except Fault (Services × ServiceHost)) :=
  match h.held with
  | some s => ⟨.ok (s, h), []⟩
  | none =>
      let c := Configuration.ofProject t here
      ⟨c.value.map fun c =>
        let s := Services.ofConfiguration c
        (s, ⟨h.built + 1, some s⟩), c.log⟩

/-- The services that the host holds are the first it has built. -/
def holdsFirst (h : ServiceHost) : Bool :=
  h.held.isSome && h.built == 1

/-- The host without services. -/
def reset (h : ServiceHost) : ServiceHost :=
  { h with held := none }

/-- The host after a value has been registered among the services it holds. -/
def register (h : ServiceHost) (key : String) (v : Value) : ServiceHost :=
  { h with held := h.held.map fun s => s.register key v }

end ServiceHost

end MarkerLint
