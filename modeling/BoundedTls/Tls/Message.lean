import BoundedTls.Tls.Context

/-!
# Messages of the protocol

What two engines say to each other, without the bytes that carry it: the flights of a handshake,
the tickets that follow it, alerts, and the data of the layers above.
-/

namespace BoundedTls.Tls

/-- A protocol version that both sides speak. -/
inductive Version where
  | tls12
  | tls13
deriving DecidableEq, Repr

/-- The newest version that both sides speak. -/
def Versions.common? (a b : Versions) : Option Version :=
  if a.tls13 && b.tls13 then some .tls13
  else if a.tls12 && b.tls12 then some .tls12
  else none

/-- A message from one engine to another. -/
inductive Message where
  /-- A client begins. -/
  | clientHello (versions : Versions)
  /-- A server answers with its certificates. -/
  | serverFlight (version : Version) (chain : List Certificate)
  /-- The client is done. -/
  | clientFinished
  /-- The server is done; only the older version needs it. -/
  | serverFinished
  /-- What a later session may be resumed with. -/
  | ticket
  | alert (alert : Alert)
  | data (bytes : List UInt8)
  /-- No more data comes. -/
  | closeNotify
deriving DecidableEq, Repr

end BoundedTls.Tls
