import BoundedTls.Connection.Error
import BoundedTls.Tls.Context

/-!
# Channels

A channel pairs a stream with the TLS context that will secure it. The stream is raw at first,
moves into a handshake task, comes back secured, and is gone once the channel is closed.
-/

namespace BoundedTls

open BoundedTls.Address

/-- One end of a byte stream to a peer. -/
structure StreamId where
  index : Nat
deriving DecidableEq, Repr

/-- Where the stream of a channel is. -/
inductive Stage where
  | raw (stream : StreamId)
  /-- A handshake task owns the stream. -/
  | handshaking
  | secure (stream : StreamId)
  | closed
deriving DecidableEq, Repr

/-- The part that a handshake task plays, with the configuration it was given. -/
inductive Side where
  | accept (config : Option Tls.ServerConfig)
  | connect (config : Option (Tls.ClientConfig × ServerName))
deriving DecidableEq, Repr

/-- A handshake that runs beside its connection and owns the stream. -/
structure HandshakeTask where
  stream : StreamId
  side : Side
deriving DecidableEq, Repr

/-- What a handshake task ends with. -/
inductive TaskResult where
  /-- The stream is secured. -/
  | secured (stream : StreamId)
  | fault (fault : Fault)
  /-- The task broke down. -/
  | broken (cause : Cause)
deriving DecidableEq, Repr

/-- A stream together with its TLS context. -/
structure Channel where
  context : Tls.Context
  stage : Stage
deriving DecidableEq, Repr

namespace Channel

/-- The stream for setting socket options, where the channel holds it. -/
def raw? (c : Channel) : Option StreamId :=
  match c.stage with
  | .raw stream | .secure stream => some stream
  | .handshaking | .closed => none

/-- The secured stream. -/
def secure? (c : Channel) : Option StreamId :=
  match c.stage with
  | .secure stream => some stream
  | _ => none

/-- The side that a role takes with the context of a channel. -/
def side (c : Channel) : Role → Side
  | .server => .accept c.context.server
  | .client => .connect c.context.client

/-- There is no raw stream to hand over. -/
def streamGone : ConnectionError :=
  .transport (.custom .notConnected (.text "raw socket is no longer available"))

/-- Hand the raw stream to a handshake task. A context that does not serve the role is reported
before a missing stream, and on an error the channel stays as it is. -/
def startHandshake (c : Channel) (role : Role) : Except ConnectionError (HandshakeTask × Channel) :=
  if c.context.supports role then
    match c.stage with
    | .raw stream => .ok (⟨stream, c.side role⟩, { c with stage := .handshaking })
    | _ => .error streamGone
  else .error .unusableContext

/-- The handshake gives the stream back secured. -/
def establish (c : Channel) (stream : StreamId) : Channel :=
  { c with stage := .secure stream }

/-- The channel without its stream. -/
def close (c : Channel) : Channel :=
  { c with stage := .closed }

end Channel

end BoundedTls
