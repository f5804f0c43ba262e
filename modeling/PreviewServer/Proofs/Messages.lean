import PreviewServer.Error
import PreviewServer.Proofs.Reports

/-!
# Messages tell errors apart

A message is written for people and quotes nothing: the text of a header and the message of a source
stand in it as they are, and both may imitate any other message. It can still be taken apart from
the front. The first letter tells the kind of the error. An address in a message may hold colons
like the one behind it, but no space, and so it ends where the first space follows a colon. A text
of any form is the last part of its message, or the last but a fixed mark.

## Main definitions

* `Error.TellsSame`: errors of one kind with the same data, of a source its message
* `Error.initial`: the letter with which the messages of a kind begin

## Main results

* `SocketAddress.text_injective`: no two socket addresses have the same text
* `SocketAddress.eq_of_text_append`: where an address in a message ends
* `Error.messages_unambiguous`: messages are the same exactly if the errors tell the same
-/

namespace PreviewServer

/-! ## Socket addresses -/

section SocketAddress

variable {a b : SocketAddress}

theorem SocketAddress.space_not_mem_text (a : SocketAddress) : ' ' ∉ a.text.toList := by
  obtain ⟨host, port⟩ := a
  have inHost : ' ' ∉ host.text.toList := by
    intro space
    rcases IpAddress.mem_text space with ⟨⟨⟩⟩ | ⟨⟨⟩⟩ | ⟨⟨⟩⟩
  have inPort : ' ' ∉ port.text.toList := by
    intro space
    cases Port.mem_text space
  cases host with
  | v4 x =>
    rw [IpAddress.text] at inHost
    simp [SocketAddress.text, inHost, inPort]
  | v6 x =>
    rw [IpAddress.text] at inHost
    simp [SocketAddress.text, inHost, inPort]

theorem Ipv6.bracket_not_mem_text (x : Ipv6) : ']' ∉ x.text.toList := by
  intro bracket
  rcases Ipv6.mem_text bracket with ⟨⟨⟩⟩ | ⟨⟨⟩⟩ | ⟨⟨⟩⟩

/-- The brackets tell the two versions apart. -/
theorem SocketAddress.text_v4_ne_text_v6 (x : Ipv4) (y : Ipv6) (p q : Port) :
    SocketAddress.text ⟨.v4 x, p⟩ ≠ SocketAddress.text ⟨.v6 y, q⟩ := by
  intro same
  have bracket : '[' ∈ (SocketAddress.text ⟨.v4 x, p⟩).toList := by
    rw [same]
    simp [SocketAddress.text]
  simp only [SocketAddress.text, String.toList_append, List.mem_append] at bracket
  rcases bracket with (inHost | colon) | inPort
  · rcases Ipv4.mem_text inHost with ⟨⟨⟩⟩ | ⟨⟨⟩⟩
  · exact absurd colon (by decide)
  · cases Port.mem_text inPort

/-- **No two socket addresses have the same text.** In version 4 the first colon ends the host, in
version 6 the closing bracket does. -/
theorem SocketAddress.text_injective (same : a.text = b.text) : a = b := by
  obtain ⟨host, port⟩ := a
  obtain ⟨host', port'⟩ := b
  have texts := congrArg String.toList same
  cases host with
  | v4 x =>
    cases host' with
    | v4 y =>
      simp only [SocketAddress.text, String.toList_append, List.append_assoc] at texts
      obtain ⟨hosts, ports⟩ := eq_of_append_mark rfl x.colon_not_mem_text y.colon_not_mem_text
        texts
      obtain ⟨⟩ : IpAddress.v4 x = .v4 y :=
        IpAddress.text_injective (String.toList_inj.mp hosts)
      rw [Port.text_injective (String.toList_inj.mp ports)]
    | v6 y => exact absurd same (SocketAddress.text_v4_ne_text_v6 x y port port')
  | v6 x =>
    cases host' with
    | v4 y => exact absurd same.symm (SocketAddress.text_v4_ne_text_v6 y x port' port)
    | v6 y =>
      simp only [SocketAddress.text, String.toList_append, List.append_assoc,
        List.append_cancel_left_eq] at texts
      obtain ⟨hosts, ports⟩ := eq_of_append_mark rfl x.bracket_not_mem_text y.bracket_not_mem_text
        texts
      obtain ⟨⟩ : IpAddress.v6 x = .v6 y :=
        IpAddress.text_injective (String.toList_inj.mp hosts)
      rw [Port.text_injective (String.toList_inj.mp ports)]

/-- **Where an address in a message ends**: at the first colon that a space follows, whatever is
written behind them. -/
theorem SocketAddress.eq_of_text_append {r s : List Char}
    (same : a.text.toList ++ (": ".toList ++ r) = b.text.toList ++ (": ".toList ++ s)) :
    a = b ∧ r = s := by
  -- The colon may stand in the addresses, so it is taken together with them, and the space is the
  -- mark.
  have free : ∀ c : SocketAddress, ' ' ∉ c.text.toList ++ [':'] := by
    intro c
    simp [c.space_not_mem_text]
  have split : ∀ (c : SocketAddress) (t : List Char),
      c.text.toList ++ (": ".toList ++ t) = c.text.toList ++ [':'] ++ ([' '] ++ t) := by
    intro c t
    simp
  rw [split a r, split b s] at same
  obtain ⟨addresses, rest⟩ := eq_of_append_mark rfl (free a) (free b) same
  exact ⟨SocketAddress.text_injective (String.toList_inj.mp (List.append_cancel_right addresses)),
    rest⟩

end SocketAddress

/-! ## Errors -/

/-- Whether two errors tell the same: they are of one kind, with the same port, address or text, and
their sources have the same message. -/
inductive Error.TellsSame : Error → Error → Prop
  | addressInUse (port : Port) : TellsSame (.addressInUse port) (.addressInUse port)
  | bind (address : SocketAddress) {source source' : SystemError}
    (sources : source.message = source'.message) :
    TellsSame (.bind address source) (.bind address source')
  | invalidHeader (text : String) : TellsSame (.invalidHeader text) (.invalidHeader text)
  | serve {source source' : SystemError} (sources : source.message = source'.message) :
    TellsSame (.serve source) (.serve source')

section Message

variable {source source' : SystemError}

-- The messages of the four kinds, by reduction. Later proofs rewrite with these and not with the
-- equations generated for the definition, which take seconds each to prove.

theorem Error.message_addressInUse (port : Port) :
    (Error.addressInUse port).message = "port " ++ (port.text ++ " is already in use") :=
  String.append_assoc

theorem Error.message_bind (address : SocketAddress) (source : SystemError) :
    (Error.bind address source).message =
      "failed to bind " ++ (address.text ++ (": " ++ source.message)) :=
  String.append_assoc.trans String.append_assoc

theorem Error.message_invalidHeader (text : String) :
    (Error.invalidHeader text).message = "invalid header `" ++ (text ++ "`") :=
  String.append_assoc

theorem Error.message_serve (source : SystemError) :
    (Error.serve source).message = "server error: " ++ source.message :=
  rfl

/-- The letter with which the messages of a kind begin. -/
def Error.initial : Error → Char
  | .addressInUse _ => 'p'
  | .bind _ _ => 'f'
  | .invalidHeader _ => 'i'
  | .serve _ => 's'

theorem Error.head?_message (e : Error) : e.message.toList.head? = some e.initial := by
  cases e with
  | addressInUse port =>
    rw [Error.message_addressInUse, String.toList_append]
    rfl
  | bind address source =>
    rw [Error.message_bind, String.toList_append]
    rfl
  | invalidHeader text =>
    rw [Error.message_invalidHeader, String.toList_append]
    rfl
  | serve source =>
    rw [Error.message_serve, String.toList_append]
    rfl

theorem Error.message_addressInUse_inj {p q : Port} :
    (Error.addressInUse p).message = (Error.addressInUse q).message ↔ p = q := by
  rw [Error.message_addressInUse, Error.message_addressInUse, String.append_right_inj,
    String.append_left_inj]
  exact ⟨Port.text_injective, congrArg Port.text⟩

theorem Error.message_bind_inj {a b : SocketAddress} :
    (Error.bind a source).message = (Error.bind b source').message ↔
      a = b ∧ source.message = source'.message := by
  rw [Error.message_bind, Error.message_bind, String.append_right_inj]
  constructor
  · intro same
    have texts := congrArg String.toList same
    simp only [String.toList_append] at texts
    obtain ⟨addresses, messages⟩ := SocketAddress.eq_of_text_append texts
    exact ⟨addresses, String.toList_inj.mp messages⟩
  · rintro ⟨rfl, sources⟩
    rw [sources]

theorem Error.message_invalidHeader_inj {text text' : String} :
    (Error.invalidHeader text).message = (Error.invalidHeader text').message ↔ text = text' := by
  rw [Error.message_invalidHeader, Error.message_invalidHeader, String.append_right_inj,
    String.append_left_inj]

theorem Error.message_serve_inj :
    (Error.serve source).message = (Error.serve source').message ↔
      source.message = source'.message := by
  rw [Error.message_serve, Error.message_serve, String.append_right_inj]

end Message

/-- **Messages are unambiguous.** Two errors have the same message exactly if they are of the same
kind and tell the same: the same taken port, the same socket address and message of a source, the
same text of a header, or the same message of a source, whatever these texts are. -/
theorem Error.messages_unambiguous (e e' : Error) :
    e.message = e'.message ↔ e.TellsSame e' := by
  constructor
  · intro same
    have kinds : e.initial = e'.initial := by
      have letters := congrArg (fun text => text.toList.head?) same
      rw [e.head?_message, e'.head?_message] at letters
      exact Option.some.inj letters
    cases e with
    | addressInUse port =>
      cases e' with
      | addressInUse port' =>
        obtain rfl := Error.message_addressInUse_inj.mp same
        exact .addressInUse port
      | _ => cases kinds
    | bind address source =>
      cases e' with
      | bind address' source' =>
        obtain ⟨rfl, sources⟩ := Error.message_bind_inj.mp same
        exact .bind address sources
      | _ => cases kinds
    | invalidHeader text =>
      cases e' with
      | invalidHeader text' =>
        obtain rfl := Error.message_invalidHeader_inj.mp same
        exact .invalidHeader text
      | _ => cases kinds
    | serve source =>
      cases e' with
      | serve source' => exact .serve (Error.message_serve_inj.mp same)
      | _ => cases kinds
  · intro tells
    cases tells with
    | addressInUse port => rfl
    | bind address sources => exact Error.message_bind_inj.mpr ⟨rfl, sources⟩
    | invalidHeader text => rfl
    | serve sources => exact Error.message_serve_inj.mpr sources

/-- Of a source no more than its message is told: it may be given by its number or as a text. -/
example : (Error.serve (.code 98)).TellsSame
    (.serve (.text "Address already in use (os error 98)")) :=
  .serve (by decide)

end PreviewServer
