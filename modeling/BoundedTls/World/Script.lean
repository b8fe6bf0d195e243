import BoundedTls.World.Attempt
import BoundedTls.World.Listening
import BoundedTls.Text.Utf8

/-!
# Scripts

A script is a list of steps on a world: settings change, streams are made, handshakes run, data
flows, listeners accept, things are dropped. Running a script gives a reply for each step
together with what the step did.
-/

namespace BoundedTls

open BoundedTls.Address BoundedTls.Time

/-- Settings for an endpoint or a connection; what is not given stays as it is. -/
structure Adjustment where
  provider : Option TlsProvider := none
  preparer : Option StreamPreparer := none
  timeout : Option Duration := none
  /-- Connections only. -/
  handle : Option Handle := none

/-- Put the settings onto an endpoint. -/
def Endpoint.adjust (e : Endpoint) (a : Adjustment) : Endpoint :=
  let e := (a.provider.map e.setProvider).getD e
  let e := (a.preparer.map e.setPreparer).getD e
  (a.timeout.map e.setTimeout).getD e

/-- Put the settings onto a connection. -/
def Connection.adjust (c : Connection) (a : Adjustment) : Connection :=
  let c := (a.provider.map c.setProvider).getD c
  let c := (a.preparer.map c.setPreparer).getD c
  let c := (a.timeout.map c.setTimeout).getD c
  (a.handle.map c.setHandle).getD c

/-- Where a listener is to be bound. -/
inductive BindTarget where
  | address (text : String)
  /-- The address of another listener. -/
  | sameAs (listener : String)
deriving DecidableEq, Repr

/-- Names of things to drop. -/
structure Discards where
  connection : Option String := none
  socket : Option String := none
  permit : Option String := none
  listener : Option String := none
  endpoint : Option String := none
deriving DecidableEq, Repr

/-- One step of a script. -/
inductive Step where
  | endpoint (name : String) (settings : Option Config.HandshakeSettings) (a : Adjustment)
  | cloneEndpoint (name copy : String)
  | connection (name : String) (endpoint : Option String) (a : Adjustment)
  | configure (name : String) (a : Adjustment)
  | stamp (endpoint name : String)
  | pair (a b : String)
  | initTransport (name socket : String) (role : Role)
  | handshake (name : String) (delivery : Delivery) (patience : Option Duration)
  | handshakeBoth (a b : String) (delivery : Delivery)
  | shutdown (name : String)
  | send (name : String) (data : List UInt8)
  | receive (name : String) (count : Nat)
  | receiveEnd (name : String)
  | socketWrite (socket : String) (data : List UInt8)
  | socketStatus (socket : String)
  | settle
  | discard (d : Discards)
  | bind (listener endpoint : String) (target : BindTarget) (maxConnections : UInt64)
  | dial (listener socket : String)
  | connect (listener : Option String) (endpoint name : String)
  | accept (listener name permit : String)
  | permits (listener : String)

/-- The reply to a step. -/
inductive Reply where
  | done
  | noConnection
  | noSocket
  | noStream
  /-- The script names something else that does not exist. -/
  | nothingThere
  | endpoint (e : Endpoint)
  | refused (e : ConnectionError)
  | report (delivery : Delivery) (r : Report)
  | reports (delivery : Delivery) (ra rb : Report) (a b : Connection)
  | sent (whole : Bool)
  | received (r : World.Received)
  | status (data isOpen : Bool)
  | slots (max : UInt64) (available : Nat)
  | listenerError (e : ListenerError) (available : Option Nat)
  | accepted (peer : SocketAddress) (available : Nat)
  | blocked (available : Nat)
  /-- The program cannot go on. -/
  | crashed (text : String)

namespace World

/-- How long a socket is watched for its status. -/
def watchTime : Duration :=
  Duration.ofMillis 20

/-- Do something with the connection of a name. -/
def withConnection (w : World) (name : String) (go : Connection → Reply × World) :
    Reply × World :=
  match w.connections.get? name with
  | some c => go c
  | none => (.noConnection, w)

/-- Do something with the secured stream of a connection. -/
def withStream (w : World) (name : String) (go : StreamId → Reply × World) : Reply × World :=
  w.withConnection name fun c =>
    match c.securedStream with
    | some stream => go stream
    | none => (.noStream, w)

/-- Make a connection under a name. -/
def makeConnection (w : World) (name : String) (endpoint : Option String) (a : Adjustment) :
    World :=
  let (handle, w) := w.drawHandle
  let (c, effects) :=
    match endpoint.bind w.endpoints.get? with
    | some e => e.connection handle
    | none => (Connection.new handle, [])
  let w := w.performAll effects
  (w.dropConnection name).putConnection name (c.adjust a)

/-- Bind a connection to the stream of a raw socket. -/
def bindTransport (w : World) (name socket : String) (role : Role) : Reply × World :=
  w.withConnection name fun c =>
    match w.sockets.get? socket with
    | none => (.noSocket, w)
    | some stream =>
      let bound := c.initTransport w.now .current stream role
      let w := { w with sockets := w.sockets.without socket }
      let w := (w.performAll bound.effects).putConnection name bound.connection
      match bound.result with
      | .ok () => (.done, w)
      | .error e => (.refused e, w)

/-- Look whether anything has arrived at a raw socket, and whether it is still open. -/
def socketStatus (w : World) (socket : String) : Reply × World :=
  match w.sockets.get? socket with
  | none => (.noSocket, w)
  | some stream =>
    let w := w.pass watchTime
    let (packets, network) := w.network.drain stream
    let isOpen := ((network.find? stream).map fun e => !e.ended && !e.reset).getD false
    (.status (!packets.isEmpty) isOpen, { w with network })

/-- Bind a listener. -/
def bindListener (w : World) (name endpoint : String) (target : BindTarget)
    (maxConnections : UInt64) : Reply × World :=
  let address :=
    match target with
    | .address text => text
    | .sameAs other => ((w.listeners.get? other).map fun l => l.address.render).getD ""
  let e := (w.endpoints.get? endpoint).getD {}
  match w.bindAs name ⟨address, maxConnections⟩ e with
  | (.failed e, w) => (.listenerError e none, w)
  | (.crashed _, w) => (.crashed tooManyPermits, w)
  | (.listening l _, w) => (.slots l.maxConnections l.available, w)

/-- Dial a listener and make the stream a connection. -/
def connectTo (w : World) (listener : Option String) (endpoint name : String) : Reply × World :=
  match w.dialWith listener ((w.endpoints.get? endpoint).getD {}) with
  | (.ok c, w) => (.done, (w.dropConnection name).putConnection name c)
  | (.error e, w) => (.listenerError e none, w)

/-- Accept a client of a listener. -/
def acceptFrom (w : World) (listener name permit : String) : Reply × World :=
  match w.listeners.get? listener with
  | none => (.nothingThere, w)
  | some l =>
    let (accepted, w) := w.acceptAt listener l
    let available := ((w.listeners.get? listener).map Listener.available).getD 0
    match accepted with
    | .blocked => (.blocked available, w.pass readerPatience)
    | .failed e => (.listenerError e (some available), w)
    | .connection c peer slot =>
      let w := (w.dropPermit permit).dropConnection name
      let w := { w with permits := w.permits.put permit slot }
      (.accepted peer available, w.putConnection name c)

/-- Drop the things that are named. -/
def discardAll (w : World) (d : Discards) : World :=
  let drop (drop : World → String → World) (name : Option String) (w : World) : World :=
    (name.map (drop w)).getD w
  let w := drop dropConnection d.connection w
  let w := drop dropSocket d.socket w
  let w := drop dropPermit d.permit w
  let w := drop dropListener d.listener w
  drop (fun w name => { w with endpoints := w.endpoints.without name }) d.endpoint w

/-- One step of a script. -/
def step (w : World) : Step → Reply × World
  | .endpoint name settings a =>
    let old := (w.endpoints.get? name).getD {}
    let e := ((settings.map Endpoint.ofSettings).getD old).adjust a
    (.endpoint e, { w with endpoints := w.endpoints.put name e })
  | .cloneEndpoint name copy =>
    match w.endpoints.get? name with
    | some e => (.done, { w with endpoints := w.endpoints.put copy e })
    | none => (.nothingThere, w)
  | .connection name endpoint a => (.done, w.makeConnection name endpoint a)
  | .configure name a =>
    w.withConnection name fun c => (.done, w.putConnection name (c.adjust a))
  | .stamp endpoint name =>
    w.withConnection name fun c =>
      match w.endpoints.get? endpoint with
      | none => (.nothingThere, w)
      | some e =>
        let (c, effects) := e.stamp c
        (.done, (w.performAll effects).putConnection name c)
  | .pair a b =>
    let w := (w.dropSocket a).dropSocket b
    let (near, far, network) := w.network.connect
    (.done, { w with network, sockets := (w.sockets.put a near).put b far })
  | .initTransport name socket role => w.bindTransport name socket role
  | .handshake name delivery patience =>
    w.withConnection name fun c =>
      let (report, w) := World.handshake w name delivery patience c
      (.report delivery report, w)
  | .handshakeBoth a b delivery =>
    w.withConnection a fun ca =>
      w.withConnection b fun cb =>
        let (ra, rb, w) := World.handshakeBoth w a b delivery ca cb
        let after (name : String) (c : Connection) := (w.connections.get? name).getD c
        (.reports delivery ra rb (after a ca) (after b cb), w)
  | .shutdown name => w.withConnection name fun c => (.done, World.shutdown w name c)
  | .send name data =>
    w.withStream name fun stream =>
      let (whole, w) := World.send w stream data
      (.sent whole, w)
  | .receive name count =>
    w.withStream name fun stream =>
      let (r, w) := receiveExactly stream count w
      (.received r, w)
  | .receiveEnd name =>
    w.withStream name fun stream =>
      let (r, w) := receiveAll stream (w.waitingBytes stream + 3) false [] w
      (.received r, w)
  | .socketWrite socket data =>
    match w.sockets.get? socket with
    | none => (.noSocket, w)
    | some stream =>
      if data.isEmpty then (.sent true, w)
      else
        let (whole, network) := w.network.write stream (.bytes data)
        (.sent whole, { w with network })
  | .socketStatus socket => World.socketStatus w socket
  | .settle => (.done, w.pass watchTime)
  | .discard d => (.done, w.discardAll d)
  | .bind listener endpoint target maxConnections =>
    w.bindListener listener endpoint target maxConnections
  | .dial listener socket =>
    match w.listeners.get? listener with
    | none => (.nothingThere, w)
    | some l =>
      let (stream, w) := (w.dropSocket socket).dial listener l
      (.done, { w with sockets := w.sockets.put socket stream })
  | .connect listener endpoint name => w.connectTo listener endpoint name
  | .accept listener name permit => w.acceptFrom listener name permit
  | .permits listener =>
    match w.listeners.get? listener with
    | none => (.nothingThere, w)
    | some l => (.slots l.maxConnections l.available, w)

/-- The world and the replies of a script; each reply comes with the effects of its step and the
world after it. A crash ends the script. -/
def runScript (w : World) : List Step → List (Reply × List Effect × World)
  | [] => []
  | s :: rest =>
    let (reply, after) := { w with trace := [] }.step s
    let here := (reply, after.trace, after)
    match reply with
    | .crashed _ => [here]
    | _ => here :: after.runScript rest

end World

end BoundedTls
