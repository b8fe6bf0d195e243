import BoundedTls.World.Basic

/-!
# Listeners in the world

Listeners are bound, dialled and accepted from under their names. Handles come from the world,
and what is done is carried out in it.
-/

namespace BoundedTls

open BoundedTls.Address

namespace World

/-- Bind a listener and keep it under a name. -/
def bindAs (w : World) (name : String) (settings : Config.ListenerSettings) (e : Endpoint) :
    Bound × World :=
  let bound := Listener.bind w.bindings w.bindTo settings e
  match bound with
  | .failed _ => (bound, w)
  | .crashed effects => (bound, w.performAll effects)
  | .listening l effects =>
    let w := { w.performAll effects with bindings := w.bindings + 1 }
    (bound, { w with listeners := w.listeners.put name l })

/-- The name of the listener at an address. -/
def listenerAt? (w : World) (address : SocketAddress) : Option String :=
  (List.find? (fun entry => entry.2.address == address) w.listeners).map Prod.fst

/-- Dial a listener: the stream of the dialling side. -/
def dial (w : World) (name : String) (l : Listener) : StreamId × World :=
  let (near, far, network) := w.network.connect
  let l := l.arrive ⟨far, w.clientAddress⟩
  (near, { w with network, dials := w.dials + 1, listeners := w.listeners.put name l })

/-- Dial a listener and make the stream a connection with the settings of an endpoint. -/
def dialWith (w : World) (listener : Option String) (e : Endpoint) :
    Except ListenerError Connection × World :=
  match listener.bind fun name => (w.listeners.get? name).map fun l => (name, l) with
  | none => (.error nobodyListens, w)
  | some (name, l) =>
    let (stream, w) := w.dial name l
    let (handle, w) := w.drawHandle
    let (made, effects) := e.dialled w.now handle stream l.address
    (made, w.performAll effects)

/-- Accept a client of a listener, if one waits and a slot is free. -/
def acceptAt (w : World) (name : String) (l : Listener) : Listener.Accepted × World :=
  let (handle, drawn) := w.drawHandle
  match l.accept w.now handle with
  | (.blocked, _, _) => (.blocked, w)
  | (accepted, l, effects) =>
    let w := drawn.performAll effects
    (accepted, { w with listeners := w.listeners.put name l })

end World

end BoundedTls
