import BoundedTls.Program.Client

/-!
# Running the program

A process starts from its command line, and serves or connects. A client prints the reply to its
message and ends; a server runs until it is interrupted.
-/

namespace BoundedTls.Program

open BoundedTls.Address BoundedTls.Text

/-- How far a process gets by itself. -/
inductive Launched where
  | ended (exit : Exit)
  /-- It serves until it is interrupted. -/
  | serving (name : String)
  /-- It waits for a reply that never comes. -/
  | awaiting

/-- Print a reply as text. -/
def Process.printReply (p : Process) (reply : List UInt8) : Process :=
  p.print (String.ofList (Utf8.decodeLossy reply))

namespace Host

/-- The process connects, sends a message, prints the reply and ends. -/
def request (h : Host) (p : Process) (e : Endpoint) (address : SocketAddress) (message : String) :
    Launched × Host :=
  match h.secureTo p e address with
  | (.error failure, p, h) => (.ended (p.fail failure), h)
  | (.ok c, p, h) =>
    match h.exchange c (Utf8.encode message) with
    | (.awaited, h) => (.awaiting, h)
    | (.failed fault, h) => (.ended (p.fail (.transport fault)), h.leave)
    | (.complete reply, h) =>
      let (p, h) := h.farewell p c
      let p := (p.printReply reply).log .finished
      (.ended (p.exit .success), h)

/-- Run the program on the host. -/
def run (h : Host) (around : Surroundings) (words : List String) : Launched × Host :=
  match start around words with
  | .error exit => (.ended exit, h)
  | .ok (p, plan) =>
    match plan.command with
    | .connect address message => h.request p plan.endpoint address message
    | .serve =>
      match h.serve p plan.settings plan.endpoint with
      | (.running name, h) => (.serving name, h)
      | (.ended exit, h) => (.ended exit, h)

end Host

end BoundedTls.Program
