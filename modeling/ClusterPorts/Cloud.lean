import ClusterPorts.Network.Plan
import ClusterPorts.Settings
import ClusterPorts.Table

/-!
# Clouds

A cloud is whatever can prepare a cluster and clean it up. Clouds are made from
settings by factories, which are registered under the names that settings use.
-/

namespace ClusterPorts

/-- A cloud, whose operations have effects `m`. -/
structure Cloud (m : Type → Type) where
  name : String
  prepare : List Port → m (Except Failure Unit)
  cleanup : m (Except Failure Unit)

/-- What makes a cloud from settings, and what there is to say about it. -/
abbrev Factory (m : Type → Type) := Settings → List LogEntry × Except Failure (Cloud m)

/-- Factories under their names. -/
abbrev Registry (m : Type → Type) := Table (Factory m)

namespace Registry

variable {m : Type → Type}

/-- Register a factory, instead of the one that had its name. -/
def register (registry : Registry m) (name : String) (factory : Factory m) : Registry m :=
  registry.insert name factory

/-- What is said when a factory is registered. -/
def registered (name : String) : LogEntry := .debug ("Registering cloud type: " ++ name)

/-- Whether a factory is registered under a name. -/
def has (registry : Registry m) (name : String) : Bool := (registry.find? name).isSome

/-- Make the cloud of the settings. -/
def create (registry : Registry m) (settings : Settings) :
    List LogEntry × Except Failure (Cloud m) :=
  match registry.find? settings.cloud.typeName with
  | some factory => factory settings
  | none => ([], .error (.settings (.unknownCloud settings.cloud.typeName)))

end Registry

end ClusterPorts
