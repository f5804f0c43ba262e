import PreviewServer.Error

/-!
# Listening at an address

What an operating system can answer to a program that wants to listen at an address, and a model of
a machine that answers so.

## Main definitions

* `ListenOutcome`: the answers of a system
* `Network`: a system, by its answer for each address
* `Machine`: a machine with some of its ports taken
-/

namespace PreviewServer

/-- What a system answers to a program that wants to listen. -/
inductive ListenOutcome where
  /-- Listening failed. -/
  | refused (source : SystemError)
  /-- The program listens; asking for the address may still fail. -/
  | listening (address : Except SystemError SocketAddress)

/-- A system, by its answer for each address. -/
abbrev Network := SocketAddress → ListenOutcome

/-- A machine, by what it has to offer to a program that wants to listen. -/
structure Machine where
  /-- Whether a program may listen at an address. -/
  hasAddress : IpAddress → Bool
  /-- The ports that other listeners hold. -/
  occupied : List Port
  /-- The port picked for a program that leaves the choice to the system. -/
  free : Port
  /-- Whether the program may open a descriptor. -/
  hasDescriptors : Bool

/-- The answers of a machine. Descriptors are looked at first, then addresses, then ports. -/
def Machine.network (m : Machine) : Network := fun a =>
  if !m.hasDescriptors then .refused .noDescriptors
  else if !m.hasAddress a.host then .refused .addressNotAvailable
  else if a.port = 0 then .listening (.ok { a with port := m.free })
  else if a.port ∈ m.occupied then .refused .addressInUse
  else .listening (.ok a)

end PreviewServer
