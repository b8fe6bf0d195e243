import BoundedTls.Listener
import BoundedTls.Network.Task

/-!
# The world

Endpoints, connections, raw sockets, listeners and permits under names, the streams between them,
the handshake tasks that run, and a clock. Effects of operations on connections and listeners are
carried out here, and kept in a trace.
-/

namespace BoundedTls

open BoundedTls.Address BoundedTls.Time

/-- Values under names, each name once. -/
abbrev Registry (α : Type) := List (String × α)

namespace Registry

variable {α : Type}

/-- The value under a name. -/
def get? (r : Registry α) (name : String) : Option α :=
  (List.find? (fun entry => entry.1 == name) r).map Prod.snd

/-- The registry without a name. -/
def without (r : Registry α) (name : String) : Registry α :=
  List.filter (fun entry => entry.1 != name) r

/-- Put a value under a name. -/
def put (r : Registry α) (name : String) (a : α) : Registry α :=
  (name, a) :: r.without name

end Registry

/-- Everything that a run of operations can see. -/
structure World where
  now : Instant := 0
  handles : HandleSource := {}
  network : Network := {}
  tasks : List RunningTask := []
  endpoints : Registry Endpoint := []
  connections : Registry Connection := []
  sockets : Registry StreamId := []
  listeners : Registry Listener := []
  permits : Registry Permit := []
  /-- The number of listeners that were ever bound. -/
  bindings : Nat := 0
  /-- The number of streams that were ever dialled. -/
  dials : Nat := 0
  /-- What was done, oldest first. -/
  trace : List Effect := []

namespace World

/-! ## Effects -/

/-- The task that owns a stream is dropped. -/
def dropTask (w : World) (task : HandshakeTask) : World :=
  { w with
    tasks := w.tasks.filter fun t => t.task.stream != task.stream
    network := w.network.close task.stream }

/-- Carry out one effect. A farewell is not sent here, because its success matters. -/
def perform (w : World) (effect : Effect) : World :=
  let w := { w with trace := w.trace ++ [effect] }
  match effect with
  | .prepared handle stream preparer =>
    if preparer.setsNodelay then
      let (answer, network) := w.network.setNodelay stream true
      let complaints := (preparer.complaints handle answer).map Effect.log
      { w with network, trace := w.trace ++ complaints }
    else w
  | .spawned task => { w with tasks := w.tasks ++ [{ task }] }
  | .aborted task => w.dropTask task
  | .closed stream => { w with network := w.network.close stream }
  | .log _ | .asked _ _ | .armed _ | .notified _ => w

/-- Carry out effects in order. -/
def performAll (w : World) (effects : List Effect) : World :=
  effects.foldl perform w

/-! ## Time -/

/-- Let the tasks run until `stop` holds or nobody has anything to do. -/
def runUntil (w : World) (stop : List RunningTask → Bool) : World :=
  let (tasks, network) := runTasks stop w.tasks w.network
  { w with tasks, network }

/-- Time passes, and everything that can run does. -/
def pass (w : World) (d : Duration) : World :=
  { w.runUntil (fun _ => false) with now := w.now + d.total }

/-- The running form of a task. -/
def running? (w : World) (task : HandshakeTask) : Option RunningTask :=
  w.tasks.find? fun t => t.task.stream == task.stream

/-- The result of a task, if it has ended. -/
def resultOf (w : World) (task : HandshakeTask) : Option TaskResult :=
  (w.running? task).bind RunningTask.result?

/-- Forget a task that has ended and whose result was taken. -/
def forgetTask (w : World) (task : HandshakeTask) : World :=
  { w with tasks := w.tasks.filter fun t => t.task.stream != task.stream }

/-! ## Names -/

/-- Draw a handle. -/
def drawHandle (w : World) : Handle × World :=
  let (handle, handles) := w.handles.draw
  (handle, { w with handles })

/-- Put a connection under a name. -/
def putConnection (w : World) (name : String) (c : Connection) : World :=
  { w with connections := w.connections.put name c }

/-- Drop the connection of a name. -/
def dropConnection (w : World) (name : String) : World :=
  match w.connections.get? name with
  | none => w
  | some c => { w.performAll c.discard with connections := w.connections.without name }

/-- Drop the raw socket of a name. -/
def dropSocket (w : World) (name : String) : World :=
  match w.sockets.get? name with
  | none => w
  | some stream =>
    { w with network := w.network.close stream, sockets := w.sockets.without name }

/-- A permit comes back to its listener. -/
def takeBack (w : World) (permit : Permit) : World :=
  { w with listeners := w.listeners.map fun (name, l) => (name, l.release permit) }

/-- Give the permit of a name back. -/
def dropPermit (w : World) (name : String) : World :=
  match w.permits.get? name with
  | none => w
  | some permit => { w.takeBack permit with permits := w.permits.without name }

/-- Drop the listener of a name, and with it the clients that wait. -/
def dropListener (w : World) (name : String) : World :=
  match w.listeners.get? name with
  | none => w
  | some l =>
    let network := l.backlog.foldl (fun n waiting => n.close waiting.stream) w.network
    { w with network, listeners := w.listeners.without name }

/-! ## Addresses -/

/-- The addresses of the listeners. -/
def takenAddresses (w : World) : List SocketAddress :=
  w.listeners.map fun (_, l) => l.address

/-- The port that the next listener gets if it asks for none. -/
def freePort (w : World) : UInt16 :=
  let candidates := (List.range (w.listeners.length + 1)).map fun i =>
    UInt16.ofNat (40000 + (w.bindings + i) % 10000)
  let taken := w.takenAddresses.map SocketAddress.port
  (candidates.find? fun port => !taken.contains port).getD 0

/-- The answer of this host to binding. It has one address, and a free port in the place of port
zero. -/
def bindTo (w : World) (wanted : SocketAddress) : Except Fault SocketAddress :=
  if wanted.ip ≠ localhost then .error (.number ErrorNumber.addressNotAvailable)
  else if wanted.port = 0 then .ok { wanted with port := w.freePort }
  else if wanted ∈ w.takenAddresses then .error (.number ErrorNumber.addressInUse)
  else .ok wanted

/-- The address from which the next client dials. -/
def clientAddress (w : World) : SocketAddress :=
  ⟨localhost, UInt16.ofNat (50000 + w.dials % 10000), 0⟩

end World

end BoundedTls
