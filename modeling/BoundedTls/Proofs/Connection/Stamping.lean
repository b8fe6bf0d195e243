import BoundedTls.Proofs.Connection.Settings
import Mathlib.Data.List.Basic
import Mathlib.Data.List.Induction

/-!
# Stamping is a snapshot

Endpoints and connections come and go together: endpoints are made, changed and dropped, connections
are made with an endpoint or without one, stamped by any endpoint at any time, and used in all ways.
A connection keeps no tie to the endpoint that has stamped it. Each of its settings is what it was
given last, by a stamp with the value that the endpoint had then, or by its owner.

## Architecture

- **Workshop**: any number of endpoints and lives (`Workshop`), and all that can be done (`Deed`).
- **Givers**: the deeds that write to a setting of one connection (`Workshop.Gives`), and the last
  of them in a history (`Workshop.LastGiven`).
- **Frames**: what a deed leaves alone, for one deed and for a history without stamps
  (`Workshop.life_run`).
-/

namespace BoundedTls

open BoundedTls.Time

/-! ## The workshop -/

/-- A change to an endpoint. -/
inductive Endpoint.Change where
  | preparer (preparer : StreamPreparer)
  | provider (provider : TlsProvider)
  | timeout (timeout : Duration)

def Endpoint.alter (e : Endpoint) : Endpoint.Change → Endpoint
  | .preparer p => e.setPreparer p
  | .provider p => e.setProvider p
  | .timeout d => e.setTimeout d

/-- The life of a connection that an endpoint has made. -/
def Life.made (e : Endpoint) (handle : Handle) (now : Instant) : Life :=
  let (connection, effects) := e.connection handle
  { connection, now, trace := effects.map .effect }

/-- The life of a connection that was stamped: its settings and the log are written. -/
def Life.stampedBy (l : Life) (e : Endpoint) : Life :=
  { l with
    connection :=
      { l.connection with preparer := e.preparer, provider := e.provider, timeout := e.timeout }
    trace := l.trace ++ [.effect (.log (.stamped l.connection.handle))] }

/-- All endpoints and connections, each under the number of those made before it. -/
structure Workshop where
  handles : HandleSource := {}
  /-- An endpoint that was dropped leaves its number. -/
  endpoints : List (Option Endpoint) := []
  lives : List Life := []

/-- What is done with endpoints and connections. -/
inductive Deed where
  | found (endpoint : Endpoint)
  | alter (e : Nat) (change : Endpoint.Change)
  | remove (e : Nat)
  /-- Make a connection. -/
  | create (now : Instant)
  /-- Have an endpoint make a connection. -/
  | equip (e : Nat) (now : Instant)
  | stamp (e c : Nat)
  | move (c : Nat) (m : Move)

/-- The deed stamps the connection. -/
def Deed.Stamps (c : Nat) (d : Deed) : Prop :=
  ∃ e, d = .stamp e c

/-- The deed can write to a setting of a connection that is there. -/
def Deed.Writes (c : Nat) (k : Shared) (d : Deed) : Prop :=
  d.Stamps c ∨ ∃ s, d = .move c (.set s) ∧ (s.given? k).isSome

/-- The move of the connection that the deed is. -/
def Deed.move? (c : Nat) : Deed → Option Move
  | move c' m => if c' = c then some m else none
  | _ => none

namespace Workshop

/-- The endpoint as it is now. -/
def endpoint? (w : Workshop) (e : Nat) : Option Endpoint :=
  w.endpoints[e]?.join

/-- A connection makes a move. -/
def act (w : Workshop) (c : Nat) (m : Move) : Workshop :=
  { w with lives := w.lives.modify c (·.step m) }

def step (w : Workshop) (d : Deed) : Workshop :=
  match d with
  | .found endpoint => { w with endpoints := w.endpoints ++ [some endpoint] }
  | .alter e change =>
    { w with endpoints := w.endpoints.modify e fun there => there.map (·.alter change) }
  | .remove e => { w with endpoints := w.endpoints.modify e fun _ => none }
  | .create now =>
    let (handle, handles) := w.handles.draw
    { w with handles, lives := w.lives ++ [Life.new handle now] }
  | .equip e now =>
    match w.endpoint? e with
    | none => w
    | some endpoint =>
      let (handle, handles) := w.handles.draw
      { w with handles, lives := w.lives ++ [Life.made endpoint handle now] }
  | .stamp e c =>
    match w.endpoint? e with
    | none => w
    | some endpoint => w.act c (.set (.stamp endpoint))
  | .move c m => w.act c m

def run (w : Workshop) (deeds : List Deed) : Workshop :=
  deeds.foldl step w

/-- A setting of a connection. -/
def shared? (w : Workshop) (c : Nat) (k : Shared) : Option k.Value :=
  w.lives[c]?.map fun l => l.connection.settings.shared k

/-- The owner of the connection is in the middle of nothing. -/
def IsResting (w : Workshop) (c : Nat) : Prop :=
  ∃ l, w.lives[c]? = some l ∧ l.activity = .resting

/-! ## Givers -/

/-- The deed gives a setting of the connection its value. -/
inductive Gives (w : Workshop) (c : Nat) : Deed → (k : Shared) → k.Value → Prop where
  /-- A new connection has what an endpoint has that nobody has changed. -/
  | created (now : Instant) (k : Shared) :
      c = w.lives.length → Gives w c (.create now) k (Endpoint.shared {} k)
  | equipped {e : Nat} {endpoint : Endpoint} (now : Instant) (k : Shared) :
      c = w.lives.length → w.endpoint? e = some endpoint →
      Gives w c (.equip e now) k (endpoint.shared k)
  /-- A stamp gives what the endpoint has at that moment, be it nothing. -/
  | stamped {e : Nat} {endpoint : Endpoint} (k : Shared) :
      w.IsResting c → w.endpoint? e = some endpoint →
      Gives w c (.stamp e c) k (endpoint.shared k)
  | set {s : Setting} {k : Shared} {v : k.Value} :
      w.IsResting c → s.given? k = some v → Gives w c (.move c (.set s)) k v

/-- The deed of a history that was the last to give the setting a value. -/
inductive LastGiven (w : Workshop) (c : Nat) (k : Shared) : List Deed → k.Value → Prop where
  | given {deeds : List Deed} {d : Deed} {v : k.Value} :
      (w.run deeds).Gives c d k v → LastGiven w c k (deeds ++ [d]) v
  | kept {deeds : List Deed} {d : Deed} {v : k.Value} :
      LastGiven w c k deeds v → (∀ v', ¬ (w.run deeds).Gives c d k v') →
      LastGiven w c k (deeds ++ [d]) v

variable {w : Workshop} {c : Nat} {k : Shared} {d : Deed} {v : k.Value}

/-! ## Steps -/

@[simp] theorem run_nil (w : Workshop) : w.run [] = w := rfl

@[simp] theorem run_cons (w : Workshop) (d : Deed) (deeds : List Deed) :
    w.run (d :: deeds) = (w.step d).run deeds := rfl

theorem run_snoc (w : Workshop) (deeds : List Deed) (d : Deed) :
    w.run (deeds ++ [d]) = (w.run deeds).step d := by
  simp [run]

theorem act_life (w : Workshop) (c c' : Nat) (m : Move) :
    (w.act c' m).lives[c]? = w.lives[c]?.map fun l => if c' = c then l.step m else l := by
  rw [act, List.getElem?_modify]
  rfl

theorem act_shared {l : Life} (hl : w.lives[c]? = some l) (m : Move) (k : Shared) :
    (w.act c m).shared? c k = some ((l.given? m k).getD (l.connection.settings.shared k)) := by
  rw [shared?, act_life, hl, ← l.shared_step]
  simp

/-- A move of another connection changes nothing. -/
theorem act_of_other {c' : Nat} (h : c' ≠ c) (m : Move) : (w.act c' m).lives[c]? = w.lives[c]? := by
  rw [act_life]
  simp [h]

/-- A connection that is made is the last. -/
theorem life_of_added (w : Workshop) (l : Life) {c : Nat} (h : c ≠ w.lives.length) :
    (w.lives ++ [l])[c]? = w.lives[c]? := by
  rcases Nat.lt_or_gt_of_ne h with hold | hnone
  · exact List.getElem?_append_left hold
  · rw [List.getElem?_eq_none, List.getElem?_eq_none]
    · exact Nat.le_of_lt hnone
    · simpa using Nat.succ_le_of_lt hnone

/-- What a deed gives is there afterwards. -/
theorem Gives.shared (h : w.Gives c d k v) : (w.step d).shared? c k = some v := by
  cases h with
  | created now k hlast =>
    subst hlast
    cases k <;> simp [shared?, step, Life.new, Connection.settings, Connection.new, Endpoint.shared]
  | equipped now k hlast hendpoint =>
    subst hlast
    cases k <;> simp [shared?, step, hendpoint, Life.made, Endpoint.connection, Endpoint.stamp,
      Connection.settings, Endpoint.shared]
  | stamped k hresting hendpoint =>
    obtain ⟨l, hl, hresting⟩ := hresting
    simp only [step, hendpoint]
    rw [act_shared hl]
    simp [Life.given?, hresting, Setting.given?]
  | set hresting hgiven =>
    obtain ⟨l, hl, hresting⟩ := hresting
    rw [step, act_shared hl]
    simp [Life.given?, hresting, hgiven]

/-- What no deed gives stays. -/
theorem shared_kept (h : ∀ v, ¬ w.Gives c d k v) : (w.step d).shared? c k = w.shared? c k := by
  -- A move of the connection that writes to the setting would have given it a value.
  have hact {m : Move} (hnone : ∀ l, w.lives[c]? = some l → l.given? m k = none) :
      (w.act c m).shared? c k = w.shared? c k := by
    cases hl : w.lives[c]? with
    | none => simp [shared?, act_life, hl]
    | some l => rw [act_shared hl, hnone l hl, shared?, hl, Option.getD_none, Option.map_some]
  cases d with
  | found | alter | remove => rfl
  | create now =>
    have hold : c ≠ w.lives.length := fun hlast => h _ (.created now k hlast)
    simp only [step, shared?, life_of_added w _ hold]
  | equip e now =>
    cases hendpoint : w.endpoint? e with
    | none => simp only [step, hendpoint]
    | some endpoint =>
      have hold : c ≠ w.lives.length := fun hlast => h _ (.equipped now k hlast hendpoint)
      simp only [step, hendpoint, shared?, life_of_added w _ hold]
  | stamp e c' =>
    cases hendpoint : w.endpoint? e with
    | none => simp only [step, hendpoint]
    | some endpoint =>
      simp only [step, hendpoint]
      by_cases hother : c' = c
      · subst hother
        refine hact fun l hl => ?_
        have hbusy : l.activity ≠ .resting :=
          fun hresting => h _ (.stamped k ⟨l, hl, hresting⟩ hendpoint)
        simp [Life.given?, hbusy]
      · rw [shared?, act_of_other hother, shared?]
  | move c' m =>
    by_cases hother : c' = c
    · subst hother
      refine hact fun l hl => ?_
      by_cases hset : ∃ s, m = .set s ∧ l.activity = .resting
      · obtain ⟨s, rfl, hresting⟩ := hset
        cases hgiven : s.given? k with
        | none => simp [Life.given?, hresting, hgiven]
        | some v => exact absurd (.set ⟨l, hl, hresting⟩ hgiven) (h v)
      · exact Life.given?_eq_none fun s hs hresting => hset ⟨s, hs, hresting⟩
    · rw [step, shared?, act_of_other hother, shared?]

/-! ## Histories -/

/-- **Each setting is what it was given last.** -/
theorem shared_run (hempty : w.lives = []) (deeds : List Deed) :
    (w.run deeds).shared? c k = some v ↔ LastGiven w c k deeds v := by
  -- The induction is on the end of the history, where the last giver is looked for first.
  induction deeds using List.reverseRecOn generalizing v with
  | nil =>
    constructor
    · intro hthere
      simp [shared?, hempty] at hthere
    · intro hgiven
      generalize hnil : ([] : List Deed) = deeds at hgiven
      cases hgiven <;> simp at hnil
  | append_singleton deeds d ih =>
    rw [run_snoc]
    constructor
    · intro hthere
      by_cases hgives : ∃ v', (w.run deeds).Gives c d k v'
      · obtain ⟨v', hgives⟩ := hgives
        obtain rfl : v' = v := Option.some.inj (hgives.shared.symm.trans hthere)
        exact .given hgives
      · have hnone : ∀ v', ¬ (w.run deeds).Gives c d k v' := fun v' hv' => hgives ⟨v', hv'⟩
        rw [shared_kept hnone] at hthere
        exact .kept (ih.mp hthere) hnone
    · intro hgiven
      generalize hwhole : deeds ++ [d] = whole at hgiven
      cases hgiven with
      | given hgives =>
        obtain ⟨rfl, hd⟩ := List.append_inj' hwhole rfl
        cases hd
        exact hgives.shared
      | kept hlast hnone =>
        obtain ⟨rfl, hd⟩ := List.append_inj' hwhole rfl
        cases hd
        rw [shared_kept hnone]
        exact ih.mpr hlast

/-- A deed that cannot write to a setting gives it nothing, if the connection is there. -/
theorem not_gives (hthere : c < w.lives.length) (h : ¬ d.Writes c k) (v : k.Value) :
    ¬ w.Gives c d k v := by
  intro hgives
  cases hgives with
  | created now k hlast | equipped now k hlast => exact absurd hthere (hlast ▸ Nat.lt_irrefl _)
  | stamped => exact h (Or.inl ⟨_, rfl⟩)
  | set hresting hgiven => exact h (Or.inr ⟨_, rfl, by simp [hgiven]⟩)

/-- A connection that is there does not go away. -/
theorem length_step (w : Workshop) (d : Deed) : w.lives.length ≤ (w.step d).lives.length := by
  cases d with
  | found | alter | remove => exact Nat.le_refl _
  | create | move => simp [step, act]
  | equip e | stamp e => cases hendpoint : w.endpoint? e <;> simp [step, hendpoint, act]

/-- A setting stands until somebody can write to it. -/
theorem shared_run_kept (hthere : c < w.lives.length) {later : List Deed}
    (h : ∀ d ∈ later, ¬ d.Writes c k) : (w.run later).shared? c k = w.shared? c k := by
  -- Every deed makes another workshop, so the workshop is general.
  induction later generalizing w with
  | nil => rfl
  | cons d later ih =>
    rw [run_cons, ih (Nat.lt_of_lt_of_le hthere (w.length_step d))
      fun d' hd' => h d' (List.mem_cons_of_mem _ hd')]
    exact shared_kept (not_gives hthere (h d List.mem_cons_self))

/-! ## Frames -/

/-- A deed that does not stamp the connection does no more to it than the move that it is. -/
theorem life_step {l : Life} (hl : w.lives[c]? = some l) (h : ¬ d.Stamps c) :
    (w.step d).lives[c]? = some ((d.move? c).elim l l.step) := by
  have hold : c ≠ w.lives.length := by
    rintro rfl
    simp at hl
  cases d with
  | found | alter | remove => exact hl
  | create now => rw [step, life_of_added w _ hold, hl]; rfl
  | equip e now =>
    cases hendpoint : w.endpoint? e with
    | none => simpa only [step, hendpoint, Deed.move?, Option.elim_none] using hl
    | some endpoint =>
      simpa only [step, hendpoint, life_of_added w _ hold, Deed.move?, Option.elim_none] using hl
  | stamp e c' =>
    have hother : c' ≠ c := fun hsame => h ⟨e, by rw [hsame]⟩
    cases hendpoint : w.endpoint? e with
    | none => simpa only [step, hendpoint, Deed.move?, Option.elim_none] using hl
    | some endpoint =>
      simpa only [step, hendpoint, act_of_other hother, Deed.move?, Option.elim_none] using hl
  | move c' m =>
    by_cases hother : c' = c
    · subst hother
      simp [step, act_life, hl, Deed.move?]
    · rw [step, act_of_other hother, hl]
      simp [Deed.move?, hother]

/-- **Between two stamps a connection is on its own.** Whatever becomes of the endpoints and of all
other connections, it makes its own moves and nothing else happens to it. -/
theorem life_run {l : Life} (hl : w.lives[c]? = some l) {later : List Deed}
    (h : ∀ d ∈ later, ¬ d.Stamps c) :
    (w.run later).lives[c]? = some (l.run (later.filterMap (Deed.move? c))) := by
  induction later generalizing w l with
  | nil => exact hl
  | cons d later ih =>
    rw [run_cons, ih (life_step hl (h d List.mem_cons_self))
      fun d' hd' => h d' (List.mem_cons_of_mem _ hd'), List.filterMap_cons]
    cases d.move? c <;> rfl

/-- A stamp changes one connection, and nothing of it but the settings. -/
theorem step_stamp {e : Nat} {endpoint : Endpoint} {l : Life}
    (hendpoint : w.endpoint? e = some endpoint) (hl : w.lives[c]? = some l)
    (hresting : l.activity = .resting) :
    w.step (.stamp e c) = { w with lives := w.lives.set c (l.stampedBy endpoint) } := by
  have hstep : l.step (.set (.stamp endpoint)) = l.stampedBy endpoint := by
    simp [Life.step, hresting, Life.set, Setting.put, Endpoint.stamp, Life.become, Life.stampedBy]
  have hset : w.lives.modify c (·.step (.set (.stamp endpoint))) =
      w.lives.set c (l.stampedBy endpoint) := by
    rw [List.modify_eq_set_getElem?, hl, ← hstep]
    rfl
  simp only [step, hendpoint, act, hset]

/-- **A stamp is a snapshot.** Endpoints and connections are made, changed, stamped, used and
dropped in any order. Each setting of each connection is what it was given last: by a stamp, with
the value that the endpoint had then, or by its own owner. A stamp, which may come in every phase,
writes the three settings and a line of the log, the settings that the endpoint does not have
included, and nothing else of any connection; they stand until another stamp or a setting of the
same kind. What is done with endpoints and other connections does not reach the connection. -/
theorem stamping_is_a_snapshot (handles : HandleSource) (deeds : List Deed) :
    let w := ({ handles } : Workshop).run deeds
    (∀ c k v, w.shared? c k = some v ↔ LastGiven { handles } c k deeds v) ∧
    (∀ e c endpoint l, w.endpoint? e = some endpoint → w.lives[c]? = some l →
      l.activity = .resting →
      w.step (.stamp e c) = { w with lives := w.lives.set c (l.stampedBy endpoint) } ∧
      ∀ k later, (∀ d ∈ later, ¬ d.Writes c k) →
        ((w.step (.stamp e c)).run later).shared? c k = some (endpoint.shared k)) ∧
    (∀ c l later, w.lives[c]? = some l → (∀ d ∈ later, ¬ d.Stamps c) →
      (w.run later).lives[c]? = some (l.run (later.filterMap (Deed.move? c)))) := by
  intro w
  refine ⟨fun c k v => shared_run rfl deeds, ?_, fun c l later hl => life_run hl⟩
  intro e c endpoint l hendpoint hl hresting
  refine ⟨step_stamp hendpoint hl hresting, fun k later hlater => ?_⟩
  have hthere : c < (w.step (.stamp e c)).lives.length :=
    Nat.lt_of_lt_of_le (List.getElem?_eq_some_iff.mp hl).1 (w.length_step _)
  rw [shared_run_kept hthere hlater]
  exact (Gives.stamped k ⟨l, hl, hresting⟩ hendpoint).shared

/-- An endpoint stamps a connection and is changed and dropped afterwards. The connection keeps the
deadline of the stamp, and has lost the preparer that the endpoint did not have. -/
example :
    let w := ({} : Workshop).run [.found {}, .create 0, .move 0 (.set (.preparer ⟨true, false⟩)),
      .alter 0 (.timeout (Duration.ofMillis 9)), .stamp 0 0,
      .alter 0 (.timeout (Duration.ofMillis 7)), .remove 0]
    w.shared? 0 .timeout = some (Duration.ofMillis 9) ∧ w.shared? 0 .preparer = some none :=
  ⟨rfl, rfl⟩

end Workshop

end BoundedTls
