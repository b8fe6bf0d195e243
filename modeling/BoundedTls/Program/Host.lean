import BoundedTls.Program.Plan
import BoundedTls.Program.Server

/-!
# Hosts

A host has a network and the servers that run on it. Servers run whenever a client has done
something that they could notice, so a client finds their answers when it looks for them.
-/

namespace BoundedTls.Program

open BoundedTls.Address

/-- A host. -/
structure Host where
  world : World := {}
  servers : List Server := []

namespace Host

/-- A process does something in the world of the host. -/
def within {α : Type} (h : Host) (p : Process) (go : World → α × World) : α × Process × Host :=
  let (a, p, world) := p.within h.world go
  (a, p, { h with world })

/-- Let every server do what it can. -/
def settle (h : Host) : Host :=
  let (servers, world) := h.servers.foldl (fun (done, w) s =>
    let (s, w) := s.tend w
    (done ++ [s], w)) ([], h.world)
  { world, servers }

/-- The server of a name. -/
def server? (h : Host) (name : String) : Option Server :=
  h.servers.find? fun s => s.name == name

/-- The address at which a server listens. -/
def addressOf (h : Host) (name : String) : Option SocketAddress :=
  (h.world.listeners.get? name).map Listener.address

/-! ## Servers -/

/-- What came of an attempt to serve. -/
inductive Serving where
  /-- The server runs until it is interrupted. -/
  | running (name : String)
  | ended (exit : Exit)

/-- Serve: bind the listener of the settings, and run from then on. -/
def serve (h : Host) (p : Process) (settings : Config.Settings) (e : Endpoint) : Serving × Host :=
  let name := "server " ++ Text.numeral h.world.bindings
  let (bound, p, h) := h.within p fun w => w.bindAs name settings.listener e
  match bound with
  | .failed error => (.ended (p.fail (.listener error)), h)
  | .crashed _ => (.ended ((p.complain tooManyPermits).exit .crash), h)
  | .listening _ _ => (.running name, { h with servers := h.servers ++ [{ name, process := p }] })

/-- A server is interrupted. -/
def interrupt (h : Host) (name : String) : Option Exit × Host :=
  match h.server? name with
  | none => (none, h)
  | some s =>
    let (exit, world) := s.interrupt h.world
    (some exit, { world, servers := h.servers.filter fun s => s.name != name })

end Host

end BoundedTls.Program
