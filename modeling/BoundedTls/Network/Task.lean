import BoundedTls.Network.Basic
import BoundedTls.Tls.Record

/-!
# Handshake tasks

Handshakes that run on the streams of the host. A client says hello, the server answers with its
certificates, the client judges them; whoever refuses tells the other by an alert and closes the
stream.
-/

namespace BoundedTls

open BoundedTls.Address BoundedTls.Tls

/-- How far a handshake has come. -/
inductive Progress where
  /-- It has not run yet. -/
  | fresh
  /-- A server waits for the first message. -/
  | awaitingHello (config : ServerConfig)
  /-- A client waits for the certificates. -/
  | awaitingFlight (config : ClientConfig) (name : ServerName)
  /-- A server waits for the client to be done. -/
  | awaitingClient (version : Version)
  /-- A client waits for the server to be done. -/
  | awaitingServer
  | ended (result : TaskResult)
deriving DecidableEq, Repr

/-- A handshake task that was started. -/
structure RunningTask where
  task : HandshakeTask
  progress : Progress := .fresh
  /-- Bytes from a peer that is no engine. -/
  received : List UInt8 := []
deriving DecidableEq, Repr

namespace RunningTask

/-- The result of a task that has ended. -/
def result? (t : RunningTask) : Option TaskResult :=
  match t.progress with
  | .ended result => some result
  | _ => none

/-- This is the task, and it has ended. -/
def isEndOf (t : RunningTask) (task : HandshakeTask) : Bool :=
  t.task.stream == task.stream && t.result?.isSome

/-- The task has something to do. -/
def isReady (t : RunningTask) (n : Network) : Bool :=
  match t.progress with
  | .ended _ => false
  | .fresh => true
  | _ => n.readable t.task.stream

/-- The task ends without a secured stream, which closes the stream. -/
def fail (t : RunningTask) (n : Network) (result : TaskResult) : RunningTask × Network :=
  ({ t with progress := .ended result }, n.close t.task.stream)

/-- The engine refuses the peer and may tell it why. -/
def refuse (t : RunningTask) (n : Network) (failure : Failure) (alert : Option Alert) :
    RunningTask × Network :=
  let n :=
    match alert with
    | some alert => (n.write t.task.stream (.message (.alert alert))).2
    | none => n
  t.fail n (.fault (.ofEngine failure))

/-- Send a message. -/
def send (t : RunningTask) (n : Network) (message : Message) : Network :=
  (n.write t.task.stream (.message message)).2

/-- The task ends with a secured stream. -/
def succeed (t : RunningTask) (n : Network) : RunningTask × Network :=
  ({ t with progress := .ended (.secured t.task.stream) }, n)

/-- A client judges the certificates of the server. -/
def judge (t : RunningTask) (n : Network) (config : ClientConfig) (name : ServerName)
    (version : Version) (chain : List Certificate) : RunningTask × Network :=
  let accept :=
    let n := t.send n .clientFinished
    match version with
    | .tls13 => t.succeed n
    | .tls12 => ({ t with progress := .awaitingServer }, n)
  match config.verifier with
  | .panics text => t.fail n (.broken (.panic text))
  | .acceptsAny => accept
  | .anchors trusted =>
    match chainFault? trusted name chain with
    | none => accept
    | some fault => t.refuse n (.invalidCertificate fault) (some fault.alert)

/-- A server answers a hello. -/
def answer (t : RunningTask) (n : Network) (config : ServerConfig) (offered : Versions) :
    RunningTask × Network :=
  match config.versions.common? offered with
  | none => t.refuse n .noCommonVersion (some .protocolVersion)
  | some version =>
    ({ t with progress := .awaitingClient version },
      t.send n (.serverFlight version config.chain))

/-- Bytes arrive that no engine wrote. -/
def takeBytes (t : RunningTask) (n : Network) (data : List UInt8) : RunningTask × Network :=
  let t := { t with received := t.received ++ data }
  match Record.read t.received with
  | .incomplete => (t, n)
  | .refused failure answered =>
    t.refuse n failure (if answered then some .decodeError else none)

/-- A message arrives. -/
def takeMessage (t : RunningTask) (n : Network) (message : Message) : RunningTask × Network :=
  match t.progress, message with
  | .awaitingHello config, .clientHello offered => t.answer n config offered
  | .awaitingFlight config name, .serverFlight version chain => t.judge n config name version chain
  | .awaitingFlight _ _, .clientHello _ =>
    t.refuse n (.wrongMessage "ClientHello" ["ServerHello", "HelloRetryRequest"])
      (some .unexpectedMessage)
  | .awaitingClient version, .clientFinished =>
    let n := if version = .tls12 then t.send n .serverFinished else t.send n .ticket
    t.succeed n
  | .awaitingServer, .serverFinished => t.succeed n
  | .ended (.secured stream), message =>
    (t, n.modify stream fun e => Network.absorb e [.message message])
  | .ended _, _ => (t, n)
  | _, .alert alert => t.refuse n (.alertReceived alert) none
  | _, _ => (t, n)

/-- A packet arrives. -/
def take (t : RunningTask) (n : Network) : Packet → RunningTask × Network
  | .bytes data =>
    match t.progress with
    | .ended _ => (t, n)
    | _ => t.takeBytes n data
  | .message message => t.takeMessage n message

/-- Packets arrive in order. -/
def takeAll (t : RunningTask) (n : Network) (packets : List Packet) : RunningTask × Network :=
  packets.foldl (fun (t, n) packet => t.take n packet) (t, n)

/-- Read what has arrived; the end of the stream in the middle of a handshake ends the task. -/
def read (t : RunningTask) (n : Network) : RunningTask × Network :=
  let (packets, n) := n.drain t.task.stream
  let (t, n) := t.takeAll n packets
  match t.progress, n.find? t.task.stream with
  | .ended _, _ => (t, n)
  | _, some e =>
    if e.ended then t.fail n (.fault .handshakeEof)
    else if e.reset then t.fail n (.fault (.number ErrorNumber.connectionReset))
    else (t, n)
  | _, none => (t, n)

/-- A side without configuration fails at once. -/
def unconfigured (what : String) : TaskResult :=
  .fault (.custom .other (.text ("no " ++ what ++ " configuration")))

/-- The task runs until it has to wait. -/
def run (t : RunningTask) (n : Network) : RunningTask × Network :=
  match t.progress, t.task.side with
  | .fresh, .accept none => t.fail n (unconfigured "server")
  | .fresh, .connect none => t.fail n (unconfigured "client")
  | .fresh, .accept (some config) => { t with progress := .awaitingHello config }.read n
  | .fresh, .connect (some (config, name)) =>
    { t with progress := .awaitingFlight config name }.read
      (t.send n (.clientHello config.versions))
  | .ended _, _ => (t, n)
  | _, _ => t.read n

end RunningTask

/-! ## Rounds -/

/-- Run every task that had something to do at the start of the round, in order. -/
def runRound (tasks : List RunningTask) (n : Network) : List RunningTask × Network :=
  let ready := tasks.map fun t => (t, t.isReady n)
  ready.foldl (fun (done, n) (t, isReady) =>
    if isReady then
      let (t, n) := t.run n
      (done ++ [t], n)
    else (done ++ [t], n)) ([], n)

/-- Run rounds until `stop` holds or nobody has anything to do, at most `bound`. -/
def runRounds (stop : List RunningTask → Bool) :
    Nat → List RunningTask → Network → List RunningTask × Network
  | 0, tasks, n => (tasks, n)
  | bound + 1, tasks, n =>
    if stop tasks || tasks.all fun t => !t.isReady n then (tasks, n)
    else
      let (tasks, n) := runRound tasks n
      runRounds stop bound tasks n

/-- A handshake runs at most this often: it starts, and then waits for at most three flights. -/
def runsPerTask : Nat := 8

/-- Run the tasks until `stop` holds or nobody has anything to do. -/
def runTasks (stop : List RunningTask → Bool) (tasks : List RunningTask) (n : Network) :
    List RunningTask × Network :=
  runRounds stop (runsPerTask * tasks.length + 1) tasks n

end BoundedTls
