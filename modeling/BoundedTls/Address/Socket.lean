import BoundedTls.Address.Ip

/-!
# Socket addresses

An IP address and a port. An IPv6 address stands in brackets and may name a scope.
-/

namespace BoundedTls.Address

open BoundedTls.Text

/-- An address to bind or to dial. -/
structure SocketAddress where
  ip : Ip
  port : UInt16
  /-- The scope of an IPv6 address, zero if none is named. -/
  scope : UInt32
deriving DecidableEq, Repr

namespace SocketAddress

/-- A colon and a port number. -/
def readPort : Reader Nat := fun s => do
  let (_, s) ← literal ':' s
  boundedNumber 65535 s

/-- A dotted IPv4 address and a port. -/
def readV4 : Reader SocketAddress := fun s => do
  let (ip, s) ← Ipv4.read s
  let (port, s) ← readPort s
  return (⟨.v4 ip, UInt16.ofNat port, 0⟩, s)

/-- A scope after a percent sign; zero if there is none. -/
def readScope : Reader Nat := fun s =>
  match s with
  | '%' :: rest => (boundedNumber 4294967295 rest) <|> some (0, s)
  | _ => some (0, s)

/-- An IPv6 address in brackets, with its scope, and a port. -/
def readV6 : Reader SocketAddress := fun s => do
  let (_, s) ← literal '[' s
  let (ip, s) ← Ipv6.read s
  let (scope, s) ← readScope s
  let (_, s) ← literal ']' s
  let (port, s) ← readPort s
  return (⟨.v6 ip, UInt16.ofNat port, UInt32.ofNat scope⟩, s)

/-- The whole text is a socket address. -/
def ofText? (s : List Char) : Option SocketAddress :=
  match readV4 s with
  | some (address, []) => some address
  | _ =>
    match readV6 s with
    | some (address, []) => some address
    | _ => none

/-- The socket address that a string denotes. -/
def parse? (s : String) : Option SocketAddress :=
  ofText? s.toList

/-- The address in its text form. -/
def render (a : SocketAddress) : String :=
  match a.ip with
  | .v4 ip => ip.render ++ ":" ++ numeral a.port.toNat
  | .v6 ip =>
    let scope := if a.scope = 0 then "" else "%" ++ numeral a.scope.toNat
    "[" ++ ip.render ++ scope ++ "]:" ++ numeral a.port.toNat

end SocketAddress

end BoundedTls.Address
