import Downlink.Proofs.Queue.CollisionFree
import Downlink.Proofs.Queue.Polling
import Downlink.Proofs.Station.Action

/-!
# Reachable stations, and what a tick does to the entries

A station is `Station.Reachable` if some actions in some order lead to it from one with a new queue.
Its queue need not be one that requests alone lead to, since the ticks count what became of the
downlinks. But that is all they do beyond asking for what is due, so what requests keep whatever the
counts say holds of the queue of every reachable station (`Station.Reachable.queue_induction`).

A tick is told apart by what it does to the entries. It drops what is stale, and then it finds
nothing due (`Station.Rests`), or it hands the first of the rest on (`Station.HandsOn`).
-/

namespace Downlink

variable {ρ : Type} [Radio ρ] {s : Scheduler} {now : Counter}

namespace Scheduler

/-- The stale entries that a poll at `now` drops, in the order they go. -/
def missed (s : Scheduler) (now : Counter) (q : Queue) : List Entry :=
  (s.dropStale now { q with reference := now }).1

/-- An empty queue misses nothing. -/
theorem missed_of_empty {q : Queue} (h : q.entries = []) : s.missed now q = [] := by
  have hnone : s.dropStale now { q with reference := now } = ([], { q with reference := now }) := by
    apply dropStale_of_none
    change q.entries.findIdx? _ = none
    rw [h]
    rfl
  rw [missed, hnone]

end Scheduler

namespace Station

/-! ## What a tick does to the entries -/

/-- What a tick comes to that finds nothing due. -/
structure Rests (s : Scheduler) (now : Counter) (st st' : Station ρ) : Prop where
  /-- an entry is dropped or stays -/
  perm : (s.missed now st.queue ++ st'.queue.entries).Perm st.queue.entries
  /-- what is dropped is stale -/
  stale : ∀ e ∈ s.missed now st.queue, s.isStale now e = true
  /-- what stays is not -/
  fresh : ∀ e ∈ st'.queue.entries, s.isStale now e = false
  /-- and has the look-ahead left at least -/
  early : ∀ e ∈ st'.queue.entries, s.policy.jitDelay ≤ e.lead now
  /-- the radio is left alone -/
  radio : st'.radio = st.radio

/-- What a tick comes to that finds the entry `e` due. -/
structure HandsOn (s : Scheduler) (now : Counter) (e : Entry) (st st' : Station ρ) : Prop where
  /-- an entry is dropped, is the one that was due, or stays -/
  perm : (s.missed now st.queue ++ e :: st'.queue.entries).Perm st.queue.entries
  /-- what is dropped is stale -/
  stale : ∀ x ∈ s.missed now st.queue, s.isStale now x = true
  /-- the others are not -/
  fresh : ∀ x ∈ e :: st'.queue.entries, s.isStale now x = false
  /-- less than the look-ahead is left for the one that was due -/
  due : e.lead now < s.policy.jitDelay
  /-- and none of those that stay comes earlier -/
  first : ∀ x ∈ st'.queue.entries, e.lead now ≤ x.lead now
  /-- the radio is what the attempt made of it -/
  radio : st'.radio = (Delivery.attempt st.radio e).radio

/-- A tick finds nothing due, or it hands the first of those on that are not stale, and reports what
came of that. -/
theorem tick_cases (s : Scheduler) (st : Station ρ) (now : Counter) :
    ((st.tick s now).event = none ∧ st.Rests s now (st.tick s now).station) ∨
      ∃ e, (st.tick s now).event =
          some ⟨e.packet.id, e.trafficClass, e.target, now,
            (Delivery.attempt st.radio e).outcome⟩ ∧
        st.HandsOn s now e (st.tick s now).station := by
  rcases s.takeDue_cases st.queue now with
    ⟨hnil, hres, hqueue⟩ |
      ⟨-, gone, left, hdrop, hparted, ⟨hdue, hres, hqueue⟩ | ⟨i, hi, hdue, hres, hqueue⟩⟩
  · have hnone : ∀ e, (s.takeDue st.queue now).result ≠ .ok (some e) := by
      intro e he
      cases hres.symm.trans he
    obtain ⟨hevent, hstation⟩ := tick_of_not_due hnone
    have hmissed : s.missed now st.queue = [] := Scheduler.missed_of_empty hnil
    rw [hevent, hstation, hqueue]
    refine .inl ⟨rfl, ?_, ?_, ?_, ?_, rfl⟩
    · rw [hmissed]
      exact .refl _
    · rw [hmissed]
      exact List.forall_mem_nil _
    · rw [hnil]
      exact List.forall_mem_nil _
    · rw [hnil]
      exact List.forall_mem_nil _
  · have hnone : ∀ e, (s.takeDue st.queue now).result ≠ .ok (some e) := by
      intro e he
      cases hres.symm.trans he
    obtain ⟨hevent, hstation⟩ := tick_of_not_due hnone
    have hmissed : s.missed now st.queue = gone := congrArg Prod.fst hdrop
    rw [hevent, hstation, hqueue]
    refine .inl ⟨rfl, ?_, ?_, hparted.kept, Scheduler.due?_eq_none.mp hdue, rfl⟩
    · rw [hmissed]
      exact hparted.perm
    · rw [hmissed]
      exact hparted.stale
  · obtain ⟨hevent, hqueue', hradio⟩ := tick_of_due hres
    have hmissed : s.missed now st.queue = gone := congrArg Prod.fst hdrop
    have hentries : (st.tick s now).station.queue.entries = (s.removeAt left i hi).2.entries := by
      rw [hqueue', hqueue]
      rfl
    have hperm := s.removeAt_perm hi
    obtain ⟨_, hjit, hfirst⟩ := Scheduler.due?_eq_some hdue
    refine .inr ⟨left.entries[i], hevent, ?_, ?_, ?_, hjit, ?_, hradio⟩
    · rw [hmissed, hentries]
      exact (hperm.append_left gone).trans hparted.perm
    · rw [hmissed]
      exact hparted.stale
    · intro x hx
      rw [hentries] at hx
      exact hparted.kept x (hperm.mem_iff.mp hx)
    · intro x hx
      rw [hentries] at hx
      exact hfirst x (hperm.mem_iff.mp (List.mem_cons_of_mem _ hx))

/-! ## Reachable stations -/

/-- Lets one action happen after the other. -/
def run (s : Scheduler) (st : Station ρ) (as : List (Action ρ)) : Station ρ :=
  as.foldl (fun st a => (st.perform s a).2) st

/-- The stations that some actions lead to from one with a new queue and some radio. -/
inductive Reachable (s : Scheduler) : Station ρ → Prop where
  /-- the new queue -/
  | fresh (radio : ρ) : Reachable s { radio }
  /-- one action more -/
  | step {st : Station ρ} (a : Action ρ) : Reachable s st → Reachable s (st.perform s a).2

namespace Reachable

variable {st : Station ρ}

/-- A run of a reachable station leads to a reachable one. -/
theorem run (h : st.Reachable s) (as : List (Action ρ)) : (st.run s as).Reachable s := by
  induction as generalizing st with
  | nil => exact h
  | cons a as ih => exact ih (h.step a)

/-- What a queue keeps when it ticks: the request for what is due, and new counts. -/
theorem queue_tick {P : Queue → Prop} (request : ∀ q r, P q → P (s.perform q r).queue)
    (counts : ∀ q n, P q → P { q with stats := n }) (h : P st.queue) (now : Counter) :
    P (st.tick s now).station.queue := by
  have htaken : P (s.takeDue st.queue now).queue := request st.queue (.takeDue now) h
  by_cases hdue : ∃ e, (s.takeDue st.queue now).result = .ok (some e)
  · obtain ⟨e, he⟩ := hdue
    obtain ⟨-, hqueue, -⟩ := tick_of_due he
    rw [hqueue]
    exact counts _ _ htaken
  · obtain ⟨-, hstation⟩ := tick_of_not_due fun e he => hdue ⟨e, he⟩
    rw [hstation]
    exact htaken

/-- What requests keep, whatever the counts say, holds of the queue of every reachable station. -/
theorem queue_induction {P : Queue → Prop} (fresh : P {})
    (request : ∀ q r, P q → P (s.perform q r).queue)
    (counts : ∀ q n, P q → P { q with stats := n }) (h : st.Reachable s) : P st.queue := by
  induction h with
  | fresh radio => exact fresh
  | @step st a _ ih =>
    cases a with
    | ask r => exact request st.queue r ih
    | tick now => exact queue_tick request counts ih now
    | tickNow => exact queue_tick request counts ih (Radio.now st.radio)
    | drain => exact ih
    | radio r => exact ih

/-- What survives the loss of entries and the admission of one holds of the entries of every
reachable station. -/
theorem entries_induction {P : List Entry → Prop} (nil : P [])
    (lose : ∀ {gone left all : List Entry}, (gone ++ left).Perm all → P all → P left)
    (gain : ∀ {q now p c e} {all : List Entry}, s.Admitted q now p c e → P q.entries →
      all.Perm (e :: q.entries) → P all)
    (h : st.Reachable s) : P st.queue.entries := by
  refine h.queue_induction (P := fun q => P q.entries) nil ?_ fun _ _ h => h
  intro q r hq
  rcases s.perform_entries q r with ⟨now, p, c, e, -, -, he, hperm⟩ | ⟨gone, hperm⟩
  · exact gain he hq hperm
  · exact lose hperm hq

/-- The entries of a reachable station are apart. -/
theorem apart (h : st.Reachable s) : st.queue.entries.Pairwise s.Apart :=
  h.entries_induction .nil Scheduler.pairwise_apart_of_lost Scheduler.Admitted.pairwise_apart

/-- What holds of every entry that is admitted holds of all entries of a reachable station. -/
theorem forall_entries {P : Entry → Prop}
    (admitted : ∀ {q now p c e}, s.Admitted q now p c e → P e) (h : st.Reachable s) :
    ∀ e ∈ st.queue.entries, P e := by
  refine h.entries_induction (P := fun es => ∀ e ∈ es, P e) ?nil ?lose ?gain
  case nil => exact List.forall_mem_nil _
  case lose =>
    intro gone left all hall hP e he
    exact hP e (hall.mem_iff.mp (List.mem_append_right gone he))
  case gain =>
    intro q now p c e all he hP hall x hx
    rcases List.mem_cons.mp (hall.mem_iff.mp hx) with rfl | hx
    · exact admitted he
    · exact hP x hx

end Reachable

end Station

end Downlink
