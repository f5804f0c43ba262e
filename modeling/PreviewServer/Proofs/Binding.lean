import PreviewServer.Proofs.CommandTrace
import PreviewServer.Proofs.Offenders

/-!
# Binding a server

Binding has three stages that can fail: the policy is checked, the system is asked to listen, and
the listener is asked for its address. The first failure decides, and each stage reports in its own
way. That a port is taken is known from the second stage alone: the same kind of failure from the
third is reported like any other.

## Main definitions

* `ServerConfig.BindsTo`: what binding comes to, by the stage that decides

## Main results

* `Policy.exists_text_of_validate_error`: a policy fails with the text of a header
* `ServerConfig.bindsTo_iff`: binding comes to exactly one of these ends
* `ServerConfig.bind_exact`: each result of binding, and when it is given
-/

namespace PreviewServer

/-! ## The ends of binding -/

/-- What binding comes to under given settings. -/
inductive ServerConfig.BindsTo (c : ServerConfig) (network : Network) : Except Error Server → Prop
  /-- The policy is illegal. The system is not asked. -/
  | illegal {text : String} (offends : c.policy.validate = .error (.invalidHeader text)) :
    BindsTo c network (.error (.invalidHeader text))
  /-- The system refuses to listen because the port is taken. -/
  | taken {router : Router} {source : SystemError}
    (built : Router.build (components c.root) c.policy = .ok router)
    (refused : network ⟨c.host, c.port⟩ = .refused source)
    (inUse : source.kind = .addressInUse) : BindsTo c network (.error (.addressInUse c.port))
  /-- The system refuses for another reason, or the listener does not tell its address. -/
  | failed {router : Router} {source : SystemError}
    (built : Router.build (components c.root) c.policy = .ok router)
    (failed : (network ⟨c.host, c.port⟩ = .refused source ∧ source.kind ≠ .addressInUse) ∨
      network ⟨c.host, c.port⟩ = .listening (.error source)) :
    BindsTo c network (.error (.bind ⟨c.host, c.port⟩ source))
  /-- The system listens. -/
  | bound {router : Router} {address : SocketAddress}
    (built : Router.build (components c.root) c.policy = .ok router)
    (listening : network ⟨c.host, c.port⟩ = .listening (.ok address)) :
    BindsTo c network (.ok ⟨address, c.root, router⟩)

theorem Policy.exists_text_of_validate_error {p : Policy} {e : Error}
    (offends : p.validate = .error e) : ∃ text, e = .invalidHeader text := by
  rcases Policy.validate_eq_error_iff.mp offends with ⟨_, -, rfl⟩ | ⟨-, _, -, rfl⟩
  · exact ⟨_, rfl⟩
  · exact ⟨_, rfl⟩

/-- The error of an illegal policy is that of building a router with it. -/
theorem Router.build_of_validate_error {root : List String} {p : Policy} {e : Error}
    (offends : p.validate = .error e) : Router.build root p = .error e := by
  rw [Router.build, offends]
  rfl

section Bind

variable {c : ServerConfig} {network : Network} {outcome : Except Error Server}

theorem ServerConfig.bind_of_validate_error {e : Error} (offends : c.policy.validate = .error e) :
    c.bind network = .error e := by
  rw [ServerConfig.bind, Router.build_of_validate_error offends]
  rfl

/-- Binding comes to one of the ends. -/
theorem ServerConfig.bindsTo_bind (c : ServerConfig) (network : Network) :
    c.BindsTo network (c.bind network) := by
  -- Stage by stage: the check of the policy, the answer of the system, the address.
  cases checked : c.policy.validate with
  | error e =>
    obtain ⟨text, rfl⟩ := Policy.exists_text_of_validate_error checked
    rw [ServerConfig.bind_of_validate_error checked]
    exact .illegal checked
  | ok fields =>
    have built : Router.build (components c.root) c.policy = .ok _ :=
      Router.build_eq_ok_iff.mpr ⟨fields, checked, rfl⟩
    cases answer : network ⟨c.host, c.port⟩ with
    | refused source =>
      rw [ServerConfig.bind_of_refused built answer, ServerConfig.refusal]
      split
      · rename_i inUse
        exact .taken built answer inUse
      · rename_i other
        exact .failed built (.inl ⟨answer, other⟩)
    | listening told =>
      cases told with
      | error source =>
        -- Nobody asks for the kind of this failure.
        rw [ServerConfig.bind_of_unaddressed built answer]
        exact .failed built (.inr answer)
      | ok address =>
        rw [ServerConfig.bind_of_listening built answer]
        exact .bound built answer

/-- **Binding comes to an end exactly if the stages say so.** -/
theorem ServerConfig.bindsTo_iff : c.BindsTo network outcome ↔ c.bind network = outcome := by
  constructor
  · intro ends
    cases ends with
    | illegal offends => exact ServerConfig.bind_of_validate_error offends
    | taken built refused inUse =>
      rw [ServerConfig.bind_of_refused built refused, ServerConfig.refusal, if_pos inUse]
    | failed built failed =>
      rcases failed with ⟨refused, other⟩ | unaddressed
      · rw [ServerConfig.bind_of_refused built refused, ServerConfig.refusal, if_neg other]
      · exact ServerConfig.bind_of_unaddressed built unaddressed
    | bound built listening => exact ServerConfig.bind_of_listening built listening
  · rintro rfl
    exact ServerConfig.bindsTo_bind c network

/-! ## Each result -/

theorem Router.exists_build_iff {root : List String} {p : Policy} :
    (∃ router, Router.build root p = .ok router) ↔ ∃ fields, p.validate = .ok fields := by
  simp only [Router.build_eq_ok_iff]
  constructor
  · rintro ⟨_, fields, accepted, -⟩
    exact ⟨fields, accepted⟩
  · rintro ⟨fields, accepted⟩
    exact ⟨_, fields, accepted, rfl⟩

theorem ServerConfig.bind_eq_invalidHeader_iff {text : String} :
    c.bind network = .error (.invalidHeader text) ↔
      c.policy.validate = .error (.invalidHeader text) := by
  rw [← ServerConfig.bindsTo_iff]
  constructor
  · rintro ⟨offends⟩
    exact offends
  · exact .illegal

theorem ServerConfig.bind_eq_addressInUse_iff {port : Port} :
    c.bind network = .error (.addressInUse port) ↔
      port = c.port ∧ (∃ fields, c.policy.validate = .ok fields) ∧
        ∃ source, network ⟨c.host, c.port⟩ = .refused source ∧ source.kind = .addressInUse := by
  rw [← ServerConfig.bindsTo_iff, ← Router.exists_build_iff]
  constructor
  · intro ends
    cases ends with
    | taken built refused inUse => exact ⟨rfl, ⟨_, built⟩, _, refused, inUse⟩
  · rintro ⟨rfl, ⟨_, built⟩, _, refused, inUse⟩
    exact .taken built refused inUse

theorem ServerConfig.bind_eq_bind_iff {address : SocketAddress} {source : SystemError} :
    c.bind network = .error (.bind address source) ↔
      address = ⟨c.host, c.port⟩ ∧ (∃ fields, c.policy.validate = .ok fields) ∧
        ((network ⟨c.host, c.port⟩ = .refused source ∧ source.kind ≠ .addressInUse) ∨
          network ⟨c.host, c.port⟩ = .listening (.error source)) := by
  rw [← ServerConfig.bindsTo_iff, ← Router.exists_build_iff]
  constructor
  · intro ends
    cases ends with
    | failed built failed => exact ⟨rfl, ⟨_, built⟩, failed⟩
  · rintro ⟨rfl, ⟨_, built⟩, failed⟩
    exact .failed built failed

theorem ServerConfig.bind_ne_serve (source : SystemError) :
    c.bind network ≠ .error (.serve source) := by
  rw [ne_eq, ← ServerConfig.bindsTo_iff]
  intro ends
  cases ends

/-- **Each result of binding, and when it is given.** An illegal policy is reported with its text,
whatever the other settings are and whatever the system would answer. Under a legal one a refusal to
listen is reported as a taken port, with the port of the settings, exactly if it is of that kind,
and otherwise with the address of the settings and its source. A listener that does not tell its
address is reported in the second way whatever the kind. Else there is a server with the directory
of the settings and the address of the listener, and it answers every request as the router for that
directory and that policy does. -/
theorem ServerConfig.bind_exact (c : ServerConfig) (network : Network) :
    (∀ text, c.bind network = .error (.invalidHeader text) ↔
      c.policy.validate = .error (.invalidHeader text)) ∧
    (∀ (c' : ServerConfig) (network' : Network), c'.policy = c.policy → ∀ text,
      (c'.bind network' = .error (.invalidHeader text) ↔
        c.bind network = .error (.invalidHeader text))) ∧
    (∀ port, c.bind network = .error (.addressInUse port) ↔
      port = c.port ∧ (∃ fields, c.policy.validate = .ok fields) ∧
        ∃ source, network ⟨c.host, c.port⟩ = .refused source ∧ source.kind = .addressInUse) ∧
    (∀ address source, c.bind network = .error (.bind address source) ↔
      address = ⟨c.host, c.port⟩ ∧ (∃ fields, c.policy.validate = .ok fields) ∧
        ((network ⟨c.host, c.port⟩ = .refused source ∧ source.kind ≠ .addressInUse) ∨
          network ⟨c.host, c.port⟩ = .listening (.error source))) ∧
    (∀ source, c.bind network ≠ .error (.serve source)) ∧
    (∀ fields address, c.policy.validate = .ok fields →
      network ⟨c.host, c.port⟩ = .listening (.ok address) →
      ∃ server router, c.bind network = .ok server ∧ server.root = c.root ∧
        server.address = address ∧ Router.build (components c.root) c.policy = .ok router ∧
        ∀ tree q, server.router.handle tree q = router.handle tree q) := by
  refine ⟨fun text => ServerConfig.bind_eq_invalidHeader_iff, ?_,
    fun port => ServerConfig.bind_eq_addressInUse_iff,
    fun address source => ServerConfig.bind_eq_bind_iff, ServerConfig.bind_ne_serve, ?_⟩
  · intro c' network' policy text
    rw [ServerConfig.bind_eq_invalidHeader_iff, ServerConfig.bind_eq_invalidHeader_iff, policy]
  · intro fields address accepted listening
    have built : Router.build (components c.root) c.policy = .ok _ :=
      Router.build_eq_ok_iff.mpr ⟨fields, accepted, rfl⟩
    exact ⟨_, _, ServerConfig.bind_of_listening built listening, rfl, rfl, built,
      fun tree q => rfl⟩

/-- A system that listens, and then says that the port is taken when it is asked for the address. -/
def forgetfulNetwork : Network := fun _ => .listening (.error .addressInUse)

/-- Settings for a directory with an illegal policy. -/
def offensiveConfig : ServerConfig := (ServerConfig.default "site").withPolicy offensivePolicy

/-- The illegal policy is reported on a machine whose ports are taken as on any other. A legal
policy meets the taken port there; a listener without an address is another failure, although it
says that the port is taken. -/
theorem ServerConfig.bind_exact_offensive :
    offensiveConfig.bind busyWorld.network =
      .error (.invalidHeader "content-type: text/b\n") ∧
    ((ServerConfig.default "site").withPort 8080).bind busyWorld.network =
      .error (.addressInUse 8080) ∧
    (ServerConfig.default "site").bind forgetfulNetwork =
      .error (.bind ⟨.anyV4, 8000⟩ .addressInUse) := by
  refine ⟨?_, ?_, ?_⟩
  · exact ((ServerConfig.bind_exact offensiveConfig busyWorld.network).1 _).mpr (by decide)
  · exact ((ServerConfig.bind_exact _ busyWorld.network).2.2.1 8080).mpr
      ⟨rfl, devPolicy_accepted, .addressInUse, rfl, rfl⟩
  · exact ((ServerConfig.bind_exact _ forgetfulNetwork).2.2.2.1 _ _).mpr
      ⟨rfl, devPolicy_accepted, .inr rfl⟩

end Bind

end PreviewServer
