import Downlink.Proofs.Station.Action
import Mathlib.Algebra.Order.Group.Multiset
import Mathlib.Data.Multiset.Count

/-!
# Nothing is lost, duplicated or altered

A `Ledger` is kept beside a station while it runs. Whenever a downlink is accepted, it is written
down with the target that was returned, and whenever one leaves the queue, where it went: given out
by its index, given out because it was due, handed to the radio, dropped as stale, or cleared. The
ledger also knows of every request to take a downlink in and of every event.

The books balance (`Balances`) if what was accepted is what is queued and what left, and the counts
of the queue agree with the ledger. Every action keeps them balanced. The counts are kept in other
places than the entries, so for each action two things are to be seen: where the entries go, which
the lemmas about the contents of a queue say, and that the right count moves with them.
-/

namespace Downlink

/-! ## The ledger -/

/-- A downlink as it was accepted, or as it left. -/
structure Parcel where
  /-- the packet, its target resolved -/
  packet : Packet
  /-- its class -/
  trafficClass : TrafficClass
deriving DecidableEq, Repr

/-- The downlink in an entry. -/
def Entry.parcel (e : Entry) : Parcel := ⟨e.packet, e.trafficClass⟩

/-- What an event tells of its downlink: the id, the class and the target. -/
def Parcel.subject (x : Parcel) : UInt64 × TrafficClass × Counter :=
  (x.packet.id, x.trafficClass, x.packet.target)

/-- What an event tells of its downlink. -/
def Event.subject (e : Event) : UInt64 × TrafficClass × Counter :=
  (e.id, e.trafficClass, e.target)

/-- What happened to the downlinks of a station. -/
structure Ledger where
  /-- the class of each downlink that was handed in -/
  submitted : Multiset TrafficClass := 0
  /-- the accepted ones, each with the target that was returned -/
  accepted : Multiset Parcel := 0
  /-- given out by their index -/
  dequeued : Multiset Parcel := 0
  /-- given out because they were due -/
  taken : Multiset Parcel := 0
  /-- handed to the radio by a tick -/
  dispatched : Multiset Parcel := 0
  /-- dropped because their slot had passed -/
  stale : Multiset Parcel := 0
  /-- thrown away when the queue was cleared -/
  cleared : Multiset Parcel := 0
  /-- what the ticks reported -/
  events : Multiset Event := 0

namespace Ledger

variable {ρ : Type} [Radio ρ] (s : Scheduler)

/-- Writes down the entries that are stale at `now`. -/
def drop (q : Queue) (now : Counter) (l : Ledger) : Ledger :=
  { l with stale :=
      ((s.dropStale now { q with reference := now }).1.map Entry.parcel : List Parcel) + l.stale }

/-- Writes down what a request comes to. -/
def request (q : Queue) (l : Ledger) : Request → Ledger
  | .enqueue now p c =>
    let l := { l with submitted := c ::ₘ l.submitted }
    match (s.enqueue q now p c).result with
    | .ok target =>
      { l with accepted := ⟨{ p with target, mode := .timestamped }, c⟩ ::ₘ l.accepted }
    | .error _ => l
  | .dequeue i =>
    match (s.dequeue q i).result with
    | .ok e => { l with dequeued := e.parcel ::ₘ l.dequeued }
    | .error _ => l
  | .peek now => l.drop s q now
  | .takeDue now =>
    let l := l.drop s q now
    match (s.takeDue q now).result with
    | .ok (some e) => { l with taken := e.parcel ::ₘ l.taken }
    | _ => l
  | .clear => { l with cleared := (q.entries.map Entry.parcel : List Parcel) + l.cleared }

/-- Writes down what a tick comes to. -/
def tick (st : Station ρ) (now : Counter) (l : Ledger) : Ledger :=
  let l := l.drop s st.queue now
  match (s.takeDue st.queue now).result, (st.tick s now).event with
  | .ok (some e), some event =>
    { l with dispatched := e.parcel ::ₘ l.dispatched, events := event ::ₘ l.events }
  | _, _ => l

/-- Writes down what an action comes to. -/
def enter (st : Station ρ) (l : Ledger) : Action ρ → Ledger
  | .ask r => l.request s st.queue r
  | .tick now => l.tick s st now
  | .tickNow => l.tick s st (Radio.now st.radio)
  | .drain | .radio _ => l

end Ledger

/-! ## Tallies -/

/-- A count for each class agrees with a multiset, as words do that start over after the largest. -/
def Tallies (f : TrafficClass → UInt64) (m : Multiset TrafficClass) : Prop :=
  ∀ c, f c = UInt64.ofNat (m.count c)

/-- One more of a class on both sides. -/
theorem Tallies.cons {f g : TrafficClass → UInt64} {m : Multiset TrafficClass} {c : TrafficClass}
    (h : Tallies f m) (hc : g c = f c + 1) (hne : ∀ d, d ≠ c → g d = f d) :
    Tallies g (c ::ₘ m) := by
  intro d
  by_cases hd : d = c
  · subst hd
    rw [hc, h d, Multiset.count_cons_self, UInt64.ofNat_add]
    rfl
  · rw [hne d hd, h d, Multiset.count_cons_of_ne hd]

/-- A table in which one class is counted on. -/
theorem Tallies.modify {t : PerClass UInt64} {m : Multiset TrafficClass} (h : Tallies t.get m)
    (c : TrafficClass) : Tallies (t.modify c (· + 1)).get (c ::ₘ m) :=
  h.cons (PerClass.get_modify_self ..) fun _ => PerClass.get_modify_of_ne t _

/-- Every refusal of a downlink is counted once. -/
theorem RefusalCounts.total_record (n : RefusalCounts) {reason : Refusal}
    (h : reason ≠ .empty) : (n.record reason).total = n.total + 1 := by
  cases reason with
  | empty => exact absurd rfl h
  | _ =>
    simp only [record, total]
    grind

/-- What is counted and what is written down agree, and every accepted downlink is in one place. -/
structure Balances (entries : List Entry) (n : Stats) (l : Ledger) : Prop where
  /-- what was accepted is queued or has left -/
  places : (entries.map Entry.parcel : List Parcel) + l.dequeued + l.taken + l.dispatched + l.stale
    + l.cleared = l.accepted
  /-- the accepted ones are counted -/
  accepted : Tallies n.enqueued.get (l.accepted.map (·.trafficClass))
  /-- the stale ones are counted -/
  stale : Tallies n.staleDropped.get (l.stale.map (·.trafficClass))
  /-- what is not accepted is counted as refused -/
  submitted : Tallies (fun c => n.enqueued.get c + (n.rejected.get c).total) l.submitted
  /-- what the ticks reported is counted as sent or as failed -/
  events : Tallies (fun c => n.transmitted.get c + n.txFailed.get c)
    (l.events.map (·.trafficClass))
  /-- the reports are about what was handed to the radio -/
  reports : l.events.map Event.subject = l.dispatched.map Parcel.subject

namespace Balances

variable {entries : List Entry} {n : Stats} {l : Ledger}

theorem nil : Balances [] {} {} := by
  refine ⟨rfl, ?_, ?_, ?_, ?_, rfl⟩ <;> exact fun c => by cases c <;> rfl

/-- The order of the entries does not matter. -/
theorem perm {entries' : List Entry} (h : Balances entries n l) (hp : entries'.Perm entries) :
    Balances entries' n l := by
  have hm : (entries'.map Entry.parcel : Multiset Parcel) =
      (entries.map Entry.parcel : List Parcel) := Multiset.coe_eq_coe.mpr (hp.map _)
  refine ⟨?_, h.accepted, h.stale, h.submitted, h.events, h.reports⟩
  rw [hm]
  exact h.places

/-! ## Coming in -/

theorem accept (h : Balances entries n l) (e : Entry) :
    Balances (e :: entries) (n.recordEnqueued e.trafficClass)
      { l with submitted := e.trafficClass ::ₘ l.submitted
               accepted := e.parcel ::ₘ l.accepted } := by
  refine ⟨?_, ?_, h.stale, ?_, h.events, h.reports⟩
  · rw [List.map_cons, ← Multiset.cons_coe]
    simp only [Multiset.cons_add, h.places]
  · rw [Multiset.map_cons]
    exact h.accepted.modify e.trafficClass
  · refine h.submitted.cons ?_ fun d hd => ?_
    · simp only [Stats.recordEnqueued, PerClass.get_modify_self]
      grind
    · simp only [Stats.recordEnqueued, PerClass.get_modify_of_ne _ _ hd]

theorem refuse (h : Balances entries n l) (c : TrafficClass) {reason : Refusal}
    (hr : reason ≠ .empty) :
    Balances entries (n.recordRejected c reason) { l with submitted := c ::ₘ l.submitted } := by
  refine ⟨h.places, h.accepted, h.stale, ?_, h.events, h.reports⟩
  refine h.submitted.cons ?_ fun d hd => ?_
  · simp only [Stats.recordRejected, PerClass.get_modify_self, RefusalCounts.total_record _ hr]
    grind
  · simp only [Stats.recordRejected, PerClass.get_modify_of_ne _ _ hd]

/-! ## Going out -/

/-- One of the entries is set apart, to be put somewhere else. -/
theorem places_cons {e : Entry} (h : Balances (e :: entries) n l) :
    e.parcel ::ₘ ((entries.map Entry.parcel : List Parcel) + l.dequeued + l.taken + l.dispatched
      + l.stale + l.cleared) = l.accepted := by
  rw [← h.places, List.map_cons, ← Multiset.cons_coe]
  simp only [Multiset.cons_add]

theorem dequeue {e : Entry} (h : Balances (e :: entries) n l) :
    Balances entries n { l with dequeued := e.parcel ::ₘ l.dequeued } := by
  refine ⟨?_, h.accepted, h.stale, h.submitted, h.events, h.reports⟩
  rw [← h.places_cons]
  simp only [Multiset.cons_add, Multiset.add_cons]

theorem take {e : Entry} (h : Balances (e :: entries) n l) :
    Balances entries n { l with taken := e.parcel ::ₘ l.taken } := by
  refine ⟨?_, h.accepted, h.stale, h.submitted, h.events, h.reports⟩
  rw [← h.places_cons]
  simp only [Multiset.cons_add, Multiset.add_cons]

theorem clear (h : Balances entries n l) :
    Balances [] n { l with cleared := (entries.map Entry.parcel : List Parcel) + l.cleared } := by
  refine ⟨?_, h.accepted, h.stale, h.submitted, h.events, h.reports⟩
  simp only [← h.places, List.map_nil, Multiset.coe_nil, zero_add]
  rw [add_left_comm]
  simp only [add_assoc]

/-- A tick hands the entry to the radio and reports on it. -/
theorem dispatch {e : Entry} (h : Balances (e :: entries) n l) (event : Event)
    (he : event.subject = e.parcel.subject) :
    Balances entries
      (if event.outcome.isSent then n.recordTransmitted e.trafficClass
        else n.recordTxFailed e.trafficClass)
      { l with dispatched := e.parcel ::ₘ l.dispatched, events := event ::ₘ l.events } := by
  have hclass : event.trafficClass = e.trafficClass := congrArg (·.2.1) he
  have hplaces : (entries.map Entry.parcel : List Parcel) + l.dequeued + l.taken
      + e.parcel ::ₘ l.dispatched + l.stale + l.cleared = l.accepted := by
    rw [← h.places_cons]
    simp only [Multiset.cons_add, Multiset.add_cons]
  have hreports : (event ::ₘ l.events).map Event.subject =
      (e.parcel ::ₘ l.dispatched).map Parcel.subject := by
    rw [Multiset.map_cons, Multiset.map_cons, he, h.reports]
  -- whichever of the two counts goes up, their sum does
  have hevents : ∀ m : Stats,
      (∀ d, d ≠ e.trafficClass → m.transmitted.get d + m.txFailed.get d =
        n.transmitted.get d + n.txFailed.get d) →
      m.transmitted.get e.trafficClass + m.txFailed.get e.trafficClass =
        n.transmitted.get e.trafficClass + n.txFailed.get e.trafficClass + 1 →
      Tallies (fun c => m.transmitted.get c + m.txFailed.get c)
        ((event ::ₘ l.events).map (·.trafficClass)) := by
    intro m hne hc
    rw [Multiset.map_cons, hclass]
    exact h.events.cons hc hne
  by_cases hsent : event.outcome.isSent = true
  · rw [if_pos hsent]
    refine ⟨hplaces, h.accepted, h.stale, h.submitted, hevents _ (fun d hd => ?_) ?_, hreports⟩
    · simp only [Stats.recordTransmitted, PerClass.get_modify_of_ne _ _ hd]
    · simp only [Stats.recordTransmitted, PerClass.get_modify_self]
      grind
  · rw [if_neg hsent]
    refine ⟨hplaces, h.accepted, h.stale, h.submitted, hevents _ (fun d hd => ?_) ?_, hreports⟩
    · simp only [Stats.recordTxFailed, PerClass.get_modify_of_ne _ _ hd]
    · simp only [Stats.recordTxFailed, PerClass.get_modify_self]
      grind

/-- Stale entries are dropped and counted one after another. The induction is on them. -/
theorem drop {gone : List Entry} (h : Balances (gone ++ entries) n l) :
    Balances entries (gone.foldl (fun n e => n.recordStale e.trafficClass) n)
      { l with stale := (gone.map Entry.parcel : List Parcel) + l.stale } := by
  -- the counts and the ledger go up entry by entry, so both are generalized
  induction gone generalizing n l with
  | nil =>
    rw [List.map_nil, Multiset.coe_nil, Multiset.zero_add]
    exact h
  | cons e gone ih =>
    have hone : Balances (gone ++ entries) (n.recordStale e.trafficClass)
        { l with stale := e.parcel ::ₘ l.stale } := by
      refine ⟨?_, h.accepted, ?_, h.submitted, h.events, h.reports⟩
      · rw [List.cons_append] at h
        rw [← h.places_cons]
        simp only [Multiset.cons_add, Multiset.add_cons]
      · rw [Multiset.map_cons]
        exact h.stale.modify e.trafficClass
    have hall := ih hone
    rw [List.map_cons, ← Multiset.cons_coe, Multiset.cons_add, ← Multiset.add_cons]
    exact hall

end Balances

/-! ## One step -/

section Step

variable {ρ : Type} [Radio ρ] {s : Scheduler} {q : Queue} {l : Ledger}

/-- Asking what is due drops the stale entries, and the books balance for what is left. -/
theorem Balances.parted (h : Balances q.entries q.stats l) {now : Counter} {gone : List Entry}
    {left : Queue} (hdrop : s.dropStale now { q with reference := now } = (gone, left))
    (hparted : s.Parted now { q with reference := now } gone left) :
    Balances left.entries (Scheduler.countStale left gone).stats (l.drop s q now) := by
  have hgone : (s.dropStale now { q with reference := now }).1 = gone := congrArg Prod.fst hdrop
  have hstats : (Scheduler.countStale left gone).stats =
      gone.foldl (fun n e => n.recordStale e.trafficClass) q.stats := by
    rw [Scheduler.countStale, hparted.stats]
  rw [hstats, Ledger.drop, hgone]
  exact (h.perm hparted.perm).drop

/-- An empty queue has nothing to drop. -/
theorem Ledger.drop_of_empty (h : q.entries = []) (now : Counter) : l.drop s q now = l := by
  have hnone : s.dropStale now { q with reference := now } = ([], { q with reference := now }) := by
    apply Scheduler.dropStale_of_none
    change q.entries.findIdx? _ = none
    rw [h]
    rfl
  rw [Ledger.drop, hnone, List.map_nil, Multiset.coe_nil, Multiset.zero_add]

theorem Balances.request (h : Balances q.entries q.stats l) (r : Request) :
    Balances (s.perform q r).queue.entries (s.perform q r).queue.stats (l.request s q r) := by
  cases r with
  | enqueue now p c =>
    simp only [Ledger.request]
    rcases s.enqueue_cases q now p c with ⟨e, he, hres, hqueue⟩ | ⟨reason, hr, hres, hqueue⟩
    · change Balances (s.enqueue q now p c).queue.entries (s.enqueue q now p c).queue.stats _
      simp only [hres, hqueue]
      have hparcel : e.parcel = ⟨{ p with target := e.target, mode := .timestamped }, c⟩ := by
        rw [Entry.parcel, ← he.packet_eq, he.trafficClass]
      rw [← hparcel, ← he.trafficClass]
      exact (h.accept e).perm (s.push_perm _ e)
    · change Balances (s.enqueue q now p c).queue.entries (s.enqueue q now p c).queue.stats _
      simp only [hres, hqueue]
      exact h.refuse c hr.reason_ne_empty
  | dequeue i =>
    simp only [Ledger.request]
    change Balances (s.dequeue q i).queue.entries (s.dequeue q i).queue.stats _
    rcases s.dequeue_cases q i with ⟨hi, hres, hqueue⟩ | ⟨reason, hres, hqueue⟩
    · simp only [hres, hqueue]
      exact (h.perm (s.removeAt_perm hi)).dequeue
    · simp only [hres, hqueue]
      exact h
  | peek now =>
    change Balances (s.peek q now).queue.entries (s.peek q now).queue.stats (l.drop s q now)
    rcases s.peek_cases q now with ⟨hq, -, hqueue⟩ | ⟨-, gone, left, hdrop, hparted, -, hqueue⟩
    · rw [hqueue, Ledger.drop_of_empty hq]
      exact h
    · rw [hqueue]
      exact h.parted hdrop hparted
  | takeDue now =>
    simp only [Ledger.request]
    change Balances (s.takeDue q now).queue.entries (s.takeDue q now).queue.stats _
    rcases s.takeDue_cases q now with ⟨hq, hres, hqueue⟩ | ⟨-, gone, left, hdrop, hparted, hdue⟩
    · simp only [hres, hqueue, Ledger.drop_of_empty hq]
      exact h
    · have hleft := h.parted hdrop hparted
      rcases hdue with ⟨-, hres, hqueue⟩ | ⟨i, hi, -, hres, hqueue⟩
      · simp only [hres, hqueue]
        exact hleft
      · simp only [hres, hqueue]
        exact (hleft.perm (s.removeAt_perm hi)).take
  | clear => exact h.clear

theorem Balances.tick {st : Station ρ} (h : Balances st.queue.entries st.queue.stats l)
    (now : Counter) :
    Balances (st.tick s now).station.queue.entries (st.tick s now).station.queue.stats
      (l.tick s st now) := by
  simp only [Ledger.tick]
  rcases s.takeDue_cases st.queue now with
    ⟨hq, hres, hqueue⟩ |
      ⟨-, gone, left, hdrop, hparted, ⟨-, hres, hqueue⟩ | ⟨i, hi, -, hres, hqueue⟩⟩
  · have hnone : ∀ e, (s.takeDue st.queue now).result ≠ .ok (some e) := by
      intro e he
      cases hres.symm.trans he
    obtain ⟨-, hstation⟩ := Station.tick_of_not_due hnone
    simp only [hres, hstation, hqueue, Ledger.drop_of_empty hq]
    exact h
  · have hnone : ∀ e, (s.takeDue st.queue now).result ≠ .ok (some e) := by
      intro e he
      cases hres.symm.trans he
    obtain ⟨-, hstation⟩ := Station.tick_of_not_due hnone
    simp only [hres, hstation, hqueue]
    exact h.parted hdrop hparted
  · obtain ⟨hevent, hqueue', -⟩ := Station.tick_of_due hres
    simp only [hres, hevent, hqueue', hqueue]
    exact ((h.parted hdrop hparted).perm (s.removeAt_perm hi)).dispatch ⟨_, _, _, now, _⟩ rfl

theorem Balances.perform {st : Station ρ} (h : Balances st.queue.entries st.queue.stats l)
    (a : Action ρ) :
    Balances (st.perform s a).2.queue.entries (st.perform s a).2.queue.stats (l.enter s st a) := by
  cases a with
  | ask r => exact h.request r
  | tick now => exact h.tick now
  | tickNow => exact h.tick (Radio.now st.radio)
  | drain => exact h
  | radio r => exact h

end Step

/-! ## A run -/

/-- A station with the ledger that was kept of it. -/
structure Books (ρ : Type) where
  /-- the station -/
  station : Station ρ
  /-- what happened to its downlinks -/
  ledger : Ledger := {}

namespace Books

variable {ρ : Type} [Radio ρ]

/-- The station after an action, with the action entered. -/
def perform (s : Scheduler) (b : Books ρ) (a : Action ρ) : Books ρ :=
  ⟨(b.station.perform s a).2, b.ledger.enter s b.station a⟩

/-- The station after a run, with every action of it entered. -/
def run (s : Scheduler) (b : Books ρ) (as : List (Action ρ)) : Books ρ := as.foldl (perform s) b

/-- Books that balance do so after a run. -/
theorem run_balances {s : Scheduler} {b : Books ρ}
    (h : Balances b.station.queue.entries b.station.queue.stats b.ledger) (as : List (Action ρ)) :
    Balances (b.run s as).station.queue.entries (b.run s as).station.queue.stats
      (b.run s as).ledger := by
  induction as generalizing b with
  | nil => exact h
  | cons a as ih => exact ih (h.perform a)

end Books

/-- **Nothing is lost, duplicated or altered.** After any run of a new station, with any radio, each
accepted downlink is queued or has left in exactly one way, as the downlink it was, with the target
that was returned; the ticks reported on those they handed to the radio; and the counts of the queue
agree with all that. -/
theorem run_conserves {ρ : Type} [Radio ρ] (config : QueueConfig) (airtime : AirtimeModel)
    (radio : ρ) (as : List (Action ρ)) :
    let b := Books.run (.ofConfig config airtime) { station := { radio } } as
    let queued : Multiset Parcel := b.station.queue.entries.map Entry.parcel
    let n := b.station.queue.stats
    let l := b.ledger
    queued + l.dequeued + l.taken + l.dispatched + l.stale + l.cleared = l.accepted ∧
    l.events.map Event.subject = l.dispatched.map Parcel.subject ∧
    ∀ c, let count := fun m : Multiset Parcel => (m.map (·.trafficClass)).count c
      n.enqueued.get c = UInt64.ofNat (count queued + count l.dequeued
        + (count l.taken + count l.dispatched) + count l.cleared) + n.staleDropped.get c ∧
      n.staleDropped.get c = UInt64.ofNat (count l.stale) ∧
      n.enqueued.get c + (n.rejected.get c).total = UInt64.ofNat (l.submitted.count c) ∧
      n.transmitted.get c + n.txFailed.get c =
        UInt64.ofNat ((l.events.map (·.trafficClass)).count c) := by
  intro b queued n l
  have h : Balances b.station.queue.entries n l := Books.run_balances .nil as
  refine ⟨h.places, h.reports, fun c => ⟨?_, h.stale c, h.submitted c, h.events c⟩⟩
  have haccepted := h.accepted c
  have hstale := h.stale c
  rw [← h.places] at haccepted
  simp only [Multiset.map_add, Multiset.count_add, UInt64.ofNat_add] at haccepted
  simp only [haccepted, hstale, UInt64.ofNat_add]
  grind

end Downlink
