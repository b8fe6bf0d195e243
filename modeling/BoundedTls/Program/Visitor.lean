import BoundedTls.Program.Client

/-!
# Visitors

Peers of a server that do not keep to the rules: some send bytes that no engine wrote, some leave
without a word.
-/

namespace BoundedTls.Program

open BoundedTls.Address

/-- A visitor of a server. -/
inductive Visitor where
  /-- Sends bytes, and either waits until the server closes the stream or hangs up at once. -/
  | raw (data : List UInt8) (hangsUp : Bool)
  /-- Secures the stream, exchanges a text, and leaves without a farewell. -/
  | abrupt (context : Tls.Context) (text : List UInt8)

/-- What a visitor has seen. -/
inductive Visit where
  | nobodyThere
  | hungUp
  /-- The server has closed the stream, after an answer or without one. -/
  | closed (answered : Bool)
  /-- The server has not closed the stream. -/
  | stillOpen
  | refused (failure : Failure)
  | answered (reply : Host.Reply)

namespace Host

/-- A raw stream to an address, bytes on it, and the end. -/
def visitRaw (h : Host) (address : SocketAddress) (data : List UInt8) (hangsUp : Bool) :
    Visit × Host :=
  match h.world.listenerAt? address with
  | none => (.nobodyThere, h)
  | some name =>
    match h.world.listeners.get? name with
    | none => (.nobodyThere, h)
    | some l =>
      let (stream, w) := h.world.dial name l
      let network :=
        if data.isEmpty then w.network else (w.network.write stream (.bytes data)).2
      let network := if hangsUp then network.close stream else network
      let h := { h with world := { w with network } }.settle
      if hangsUp then (.hungUp, h)
      else
        let (packets, network) := h.world.network.drain stream
        let isOpen := ((network.find? stream).map fun e => !e.ended && !e.reset).getD false
        let h := { h with world := { h.world with network := network.close stream } }
        (if isOpen then .stillOpen else .closed (!packets.isEmpty), h.settle)

/-- A secured stream to an address, a text and its echo, and the end without a farewell. -/
def visitAbruptly (h : Host) (address : SocketAddress) (context : Tls.Context)
    (text : List UInt8) : Visit × Host :=
  let e := Endpoint.setProvider {} ⟨fun _ => some context, false⟩
  match h.secureTo {} e address with
  | (.error failure, _, h) => (.refused failure, h)
  | (.ok c, _, h) =>
    let (reply, h) := h.exchange c text
    (.answered reply, h.leave)

/-- A visitor comes to the server at an address. -/
def visit (h : Host) (address : SocketAddress) : Visitor → Visit × Host
  | .raw data hangsUp => h.visitRaw address data hangsUp
  | .abrupt context text => h.visitAbruptly address context text

end Host

end BoundedTls.Program
