import BoundedTls.Network.Task
import Mathlib.Logic.Relation

/-!
# How a handshake task gets on

A task goes from one station of its handshake to the next, whatever its peer sends it and whatever
becomes of its stream. Which stations there are is settled by the side that it was given: a server
waits for a hello with its own configuration and then for the client, and a client waits for the
certificates with its own configuration and name, and then for the server.

## Architecture

- **Stations**: which station can follow another (`Progress.Next`).
- **Operations**: everything that a task does leads it along these stations (`RunningTask.Leads`),
  from a single message to a whole run.
-/

namespace BoundedTls

open BoundedTls.Tls

/-! ## Stations -/

/-- The station of a task that can come after another one. -/
inductive Progress.Next (task : HandshakeTask) : Progress → Progress → Prop where
  | serve {config : ServerConfig} :
      task.side = .accept (some config) → Next task .fresh (.awaitingHello config)
  | approach {config : ClientConfig} {name : Address.ServerName} :
      task.side = .connect (some (config, name)) → Next task .fresh (.awaitingFlight config name)
  /-- A server without a configuration ends before it begins. -/
  | unserved :
      task.side = .accept none → Next task .fresh (.ended (RunningTask.unconfigured "server"))
  | unapproached :
      task.side = .connect none → Next task .fresh (.ended (RunningTask.unconfigured "client"))
  | answer (config : ServerConfig) (version : Version) :
      Next task (.awaitingHello config) (.awaitingClient version)
  | approve (config : ClientConfig) (name : Address.ServerName) :
      Next task (.awaitingFlight config name) .awaitingServer
  /-- The stream that is secured is the one that the task was given. -/
  | succeed (p : Progress) : Next task p (.ended (.secured task.stream))
  | fail (p : Progress) {result : TaskResult} :
      (∀ stream, result ≠ .secured stream) → (∀ what, result ≠ RunningTask.unconfigured what) →
      Next task p (.ended result)

namespace RunningTask

/-- The task has come from one state to another along its stations. -/
structure Leads (t t' : RunningTask) : Prop where
  task : t'.task = t.task
  progress : Relation.ReflTransGen (Progress.Next t.task) t.progress t'.progress

variable {t t' t'' : RunningTask} {n : Network}

theorem Leads.refl (t : RunningTask) : t.Leads t :=
  ⟨rfl, .refl⟩

theorem Leads.trans (h : t.Leads t') (h' : t'.Leads t'') : t.Leads t'' :=
  ⟨h'.task.trans h.task, h.progress.trans (h.task ▸ h'.progress)⟩

theorem Leads.of_next {p : Progress} (h : Progress.Next t.task t.progress p) :
    t.Leads { t with progress := p } :=
  ⟨rfl, .single h⟩

/-! ## Operations -/

theorem refuse_leads (t : RunningTask) (n : Network) (failure : Failure) (alert : Option Alert) :
    t.Leads (t.refuse n failure alert).1 :=
  .of_next (.fail _ (by simp) (by simp [unconfigured, Fault.ofEngine]))

theorem judge_leads {config : ClientConfig} {name : Address.ServerName}
    (hp : t.progress = .awaitingFlight config name) (n : Network) (version : Version)
    (chain : List Certificate) : t.Leads (t.judge n config name version chain).1 := by
  unfold RunningTask.judge
  extract_lets sent accept
  -- A client that accepts is done, or waits for the server to be done.
  have haccept : t.Leads accept.1 := by
    cases version with
    | tls13 => exact .of_next (.succeed _)
    | tls12 => exact .of_next (hp ▸ .approve config name)
  cases config.verifier with
  | panics text => exact .of_next (.fail _ (by simp) (by simp [unconfigured]))
  | acceptsAny => exact haccept
  | anchors trusted =>
    simp only
    split
    · exact haccept
    · exact refuse_leads _ _ _ _

theorem answer_leads {config : ServerConfig} (hp : t.progress = .awaitingHello config) (n : Network)
    (offered : Versions) : t.Leads (t.answer n config offered).1 := by
  unfold RunningTask.answer
  split
  · exact refuse_leads _ _ _ _
  · exact .of_next (hp ▸ .answer config _)

theorem takeBytes_leads (t : RunningTask) (n : Network) (data : List UInt8) :
    t.Leads (t.takeBytes n data).1 := by
  have hmore : t.Leads { t with received := t.received ++ data } := ⟨rfl, .refl⟩
  unfold RunningTask.takeBytes
  simp only
  split
  · exact hmore
  · exact hmore.trans (refuse_leads _ _ _ _)

theorem takeMessage_leads (t : RunningTask) (n : Network) (message : Message) :
    t.Leads (t.takeMessage n message).1 := by
  unfold RunningTask.takeMessage
  split
  · exact answer_leads ‹_› _ _
  · exact judge_leads ‹_› _ _ _
  · exact refuse_leads _ _ _ _
  · exact .of_next (.succeed _)
  · exact .of_next (.succeed _)
  · exact .refl t
  · exact .refl t
  · exact refuse_leads _ _ _ _
  · exact .refl t

theorem take_leads (t : RunningTask) (n : Network) (packet : Packet) :
    t.Leads (t.take n packet).1 := by
  cases packet with
  | bytes data =>
    simp only [RunningTask.take]
    split
    · exact .refl t
    · exact t.takeBytes_leads n data
  | message message => exact t.takeMessage_leads n message

theorem takeAll_leads (t : RunningTask) (n : Network) (packets : List Packet) :
    t.Leads (t.takeAll n packets).1 := by
  -- Every packet changes the task and the network.
  induction packets generalizing t n with
  | nil => exact .refl t
  | cons packet packets ih => exact (t.take_leads n packet).trans (ih _ _)

theorem read_leads (t : RunningTask) (n : Network) : t.Leads (t.read n).1 := by
  have htaken := t.takeAll_leads (n.drain t.task.stream).2 (n.drain t.task.stream).1
  unfold RunningTask.read
  simp only
  generalize t.takeAll (n.drain t.task.stream).2 (n.drain t.task.stream).1 = taken at *
  split
  · exact htaken
  · split
    · exact htaken.trans (.of_next (.fail _ (by simp) (by simp [unconfigured, Fault.handshakeEof])))
    · split
      · exact htaken.trans (.of_next (.fail _ (by simp) (by simp [unconfigured])))
      · exact htaken
  · exact htaken

/-- **A run leads a task along its stations.** -/
theorem run_leads (t : RunningTask) (n : Network) : t.Leads (t.run n).1 := by
  unfold RunningTask.run
  split
  · rename_i hfresh hside
    exact .of_next (hfresh ▸ .unserved hside)
  · rename_i hfresh hside
    exact .of_next (hfresh ▸ .unapproached hside)
  · rename_i hfresh hside
    exact (Leads.of_next (hfresh ▸ .serve hside)).trans (read_leads _ _)
  · rename_i hfresh hside
    exact (Leads.of_next (hfresh ▸ .approach hside)).trans (read_leads _ _)
  · exact .refl t
  · exact t.read_leads n

end RunningTask

end BoundedTls
