import PreviewServer.Policy

/-!
# Server settings

Settings start from defaults for a directory and are changed field by field.

## Main definitions

* `ServerConfig`: the settings of a server
* `ServerConfig.default`: the settings for a directory before any change
* `ConfigChange`: values for some of the fields
* `ServerConfig.states`: the settings after each of several changes

## Main results

* `ServerConfig.change_eq`: what a change does to each field
-/

namespace PreviewServer

/-- The settings of a server. -/
structure ServerConfig where
  /-- The directory to serve. -/
  root : String
  /-- The address to listen at. -/
  host : IpAddress
  /-- The port to listen at; 0 leaves the choice to the system. -/
  port : Port
  policy : Policy
  deriving DecidableEq, Repr

/-- The settings for a directory: all interfaces, the default port and the policy for previews. -/
def ServerConfig.default (root : String) : ServerConfig where
  root := root
  host := .anyV4
  port := defaultPort
  policy := devPolicy

/-- New values for some of the settings. The directory never changes. -/
structure ConfigChange where
  host : Option IpAddress
  port : Option Port
  policy : Option Policy
  deriving DecidableEq, Repr

/-- The settings with another address. -/
def ServerConfig.withHost (c : ServerConfig) (host : IpAddress) : ServerConfig :=
  { c with host := host }

/-- The settings with another port. -/
def ServerConfig.withPort (c : ServerConfig) (port : Port) : ServerConfig :=
  { c with port := port }

/-- The settings with another policy. -/
def ServerConfig.withPolicy (c : ServerConfig) (policy : Policy) : ServerConfig :=
  { c with policy := policy }

/-- The settings after a change. -/
def ServerConfig.change (c : ServerConfig) (d : ConfigChange) : ServerConfig :=
  let c := d.host.elim c c.withHost
  let c := d.port.elim c c.withPort
  d.policy.elim c c.withPolicy

/-- **What a change does**: it gives each field its value for that field, if it has one. -/
theorem ServerConfig.change_eq (c : ServerConfig) (d : ConfigChange) :
    c.change d = ⟨c.root, d.host.getD c.host, d.port.getD c.port, d.policy.getD c.policy⟩ := by
  obtain ⟨host, port, policy⟩ := d
  cases host <;> cases port <;> cases policy <;> rfl

/-- The report of settings. -/
def ServerConfig.report (c : ServerConfig) : String :=
  "ServerConfig \x7b root: " ++ quoted c.root ++ ", host: " ++ c.host.text ++ ", port: " ++
    c.port.text ++ ", policy: " ++ c.policy.report ++ " \x7d"

/-- Settings in the course of changes. -/
structure ConfigState where
  config : ServerConfig
  /-- Whether the last change made a difference. -/
  changed : Bool
  /-- Whether the settings are those before all changes. -/
  isDefault : Bool
  deriving DecidableEq, Repr

/-- The settings after each of several changes, given those before all changes. -/
def ServerConfig.statesFrom (initial current : ServerConfig) :
    List ConfigChange → List ConfigState
  | [] => []
  | d :: ds =>
    let next := current.change d
    ⟨next, next ≠ current, next = initial⟩ :: ServerConfig.statesFrom initial next ds

/-- The settings at the start and after each of several changes. -/
def ServerConfig.states (initial : ServerConfig) (changes : List ConfigChange) :
    List ConfigState :=
  ⟨initial, false, true⟩ :: ServerConfig.statesFrom initial initial changes

end PreviewServer
