import Downlink.Proofs.Clock.Distance
import Downlink.Proofs.Queue.Polling
import Downlink.Proofs.Queue.Request

/-!
# A queue in time

A queue only sees readings of a counter that starts over every 71.6 minutes. Here time is counted
without end, and a reading is what the counter shows at some time (`Request.MadeAt`). Requests that
are made one after the other lead from a queue at one time to a queue at a later one (`Leads`).

An entry's target is then a time as well: that many microseconds after it was handed in. A poll
tells it from one that has passed by how far ahead it seems to lie, and that answer is right for as
long as the target has not passed so long ago that it comes up again, one turn of the counter later.
Until then every poll treats the entry by the clock (`Scheduler.Punctual`).
-/

namespace Downlink

/-! ## Requests in time -/

/-- The request is made at the time: the reading that comes with it, if any, is the one of then. -/
def Request.MadeAt (time : Nat) : Request → Prop
  | .enqueue now _ _ | .peek now | .takeDue now => now = .ofTime time
  | .dequeue _ | .clear => True

/-- What a queue at a time can become, and when: the requests are made at times that do not go back,
and each is one that `allowed` lets through. -/
inductive Leads (s : Scheduler) (allowed : Queue → Request → Prop) (q : Queue) (m : Nat) :
    Queue → Nat → Prop where
  /-- nothing is asked -/
  | refl : Leads s allowed q m q m
  /-- one request more -/
  | step {q' : Queue} {n n' : Nat} {r : Request} : Leads s allowed q m q' n → n ≤ n' →
    r.MadeAt n' → allowed q' r → Leads s allowed q m (s.perform q' r).queue n'

/-- Time does not go back. -/
theorem Leads.le {s : Scheduler} {allowed : Queue → Request → Prop} {q q' : Queue} {m n : Nat}
    (h : Leads s allowed q m q' n) : m ≤ n := by
  induction h with
  | refl => exact Nat.le_refl m
  | step _ hle _ _ ih => exact Nat.le_trans ih hle

/-- What requests in time lead to is what requests lead to. -/
theorem Leads.reachable {s : Scheduler} {allowed : Queue → Request → Prop} {q q' : Queue}
    {m n : Nat} (h : Leads s allowed q m q' n) (hq : Reachable s q) : Reachable s q' := by
  induction h with
  | refl => exact hq
  | step _ _ _ _ ih => exact .step _ ih

/-! ## Targets as times -/

/-- The time of the entry's target that is less than a turn after `n0`. -/
def Entry.time (n0 : Nat) (e : Entry) : Nat := e.target.timeFrom n0

theorem Entry.time_eq (n0 : Nat) (e : Entry) : e.time n0 = n0 + (e.lead (.ofTime n0)).toNat := rfl

theorem Entry.target_eq (n0 : Nat) (e : Entry) : e.target = .ofTime (e.time n0) :=
  (Counter.ofTime_timeFrom n0 e.target).symm

namespace Scheduler

variable {s : Scheduler} {q : Queue} {e : Entry} {t n : Nat}

/-! ## What the clock says of an entry -/

/-- What has passed seems to lie so far ahead that it is stale, and what has not does not. -/
theorem isStale_ofTime (htarget : e.target = .ofTime t) (hnear : t < n + s.policy.maxAdvance.toNat)
    (hturn : n + s.policy.maxAdvance.toNat ≤ t + 2 ^ 32) :
    s.isStale (.ofTime n) e = true ↔ t < n := by
  have hmax := Span.toNat_lt s.policy.maxAdvance
  rw [isStale, decide_eq_true_iff, UInt32.le_iff_toNat_le, Entry.lead, htarget,
    Counter.toNat_since, Counter.toNat_ofTime, Counter.toNat_ofTime]
  omega

/-- A poll would send just what has not passed and is no longer away than the look-ahead. -/
theorem ripe_ofTime (htarget : e.target = .ofTime t) (hnear : t < n + s.policy.maxAdvance.toNat)
    (hturn : n + s.policy.maxAdvance.toNat ≤ t + 2 ^ 32) :
    s.Ripe (.ofTime n) e ↔ n ≤ t ∧ t < n + s.policy.jitDelay.toNat := by
  have hmax := Span.toNat_lt s.policy.maxAdvance
  rw [Ripe, ← Bool.not_eq_true, isStale_ofTime htarget hnear hturn, Nat.not_lt]
  refine and_congr_right ?_
  intro hahead
  rw [UInt32.lt_iff_toNat_lt, Entry.lead, htarget,
    Counter.toNat_since_ofTime_of_le hahead (by omega)]
  omega

/-! ## Punctual polls -/

/-- A poll of the queue at time `n` treats an entry with target time `t` by the clock. -/
structure Punctual (s : Scheduler) (q : Queue) (e : Entry) (t n : Nat) : Prop where
  /-- it is dropped as stale just when its slot has passed -/
  stale : e ∈ (s.dropStale (.ofTime n) { q with reference := .ofTime n }).1 ↔ t < n
  /-- it is still there after a peek just when its slot has not passed -/
  peek : e ∈ (s.peek q (.ofTime n)).queue.entries ↔ n ≤ t
  /-- taking what is due keeps it or takes it just when its slot has not passed -/
  kept : ((s.takeDue q (.ofTime n)).result = .ok (some e) ∨
    e ∈ (s.takeDue q (.ofTime n)).queue.entries) ↔ n ≤ t
  /-- it is not taken after its slot, nor sooner than the look-ahead allows -/
  taken : (s.takeDue q (.ofTime n)).result = .ok (some e) →
    n ≤ t ∧ t < n + s.policy.jitDelay.toNat
  /-- taking all that is due takes it just when its slot has not passed and is that near -/
  drained : e ∈ (s.drain (.ofTime n) q).1 ↔ n ≤ t ∧ t < n + s.policy.jitDelay.toNat

/-- An entry that is less than the maximum advance away, or passed not so long ago that it seems to
be so again, is treated by the clock. -/
theorem punctual_of_mem (he : e ∈ q.entries) (htarget : e.target = .ofTime t)
    (hnear : t < n + s.policy.maxAdvance.toNat)
    (hturn : n + s.policy.maxAdvance.toNat ≤ t + 2 ^ 32) : s.Punctual q e t n := by
  have hstale := isStale_ofTime htarget hnear hturn
  have hfresh : s.isStale (.ofTime n) e = false ↔ n ≤ t := by
    rw [← Bool.not_eq_true, hstale, Nat.not_lt]
  have hripe := ripe_ofTime htarget hnear hturn
  constructor
  case stale =>
    rw [(s.parted_dropStale (.ofTime n) { q with reference := .ofTime n }).mem_gone, hstale]
    exact and_iff_right he
  case peek =>
    rw [mem_peek, hfresh]
    exact and_iff_right he
  case kept =>
    rw [mem_takeDue, hfresh]
    exact and_iff_right he
  case taken =>
    intro htaken
    exact hripe.mp (takeDue_some htaken).1
  case drained =>
    rw [mem_drain, hripe]
    exact and_iff_right he

end Scheduler

/-! ## Delivery -/

/-- **Delivery on time.** A downlink that is accepted for a target less than the maximum advance
away is queued with that target, and whatever is asked of the queue after that, as time goes on,
each poll that still finds it there treats it by the clock: it is dropped if its slot has passed and
only then, it is not taken before the look-ahead reaches its slot or after its slot, and within that
time it is taken if all that is due is. This goes on until its target is one turn of the counter
less the maximum advance ago. -/
theorem enqueue_punctual (config : QueueConfig) (airtime : AirtimeModel) :
    let s := Scheduler.ofConfig config airtime
    ∀ {q : Queue} {m : Nat} {p : Packet} {c : TrafficClass} {target : Counter},
      (s.enqueue q (.ofTime m) p c).result = .ok target →
      target.since (.ofTime m) < config.maxAdvance →
      ∃ e t, e ∈ (s.enqueue q (.ofTime m) p c).queue.entries ∧
        e.packet = { p with target, mode := .timestamped } ∧ e.trafficClass = c ∧
        t = m + (target.since (.ofTime m)).toNat ∧ target = .ofTime t ∧
        ∀ {q' : Queue} {k n : Nat},
          Leads s (fun _ _ => True) (s.enqueue q (.ofTime m) p c).queue m q' k →
          k ≤ n → n + config.maxAdvance.toNat ≤ t + 2 ^ 32 → e ∈ q'.entries →
          s.Punctual q' e t n := by
  intro s q m p c target haccepted hlead
  obtain ⟨e, he, rfl, -, hmem⟩ := Scheduler.enqueue_eq_ok haccepted
  have htime := Counter.ofTime_add_since m e.target
  refine ⟨e, _, hmem, he.packet_eq, he.trafficClass, rfl, htime.symm, ?_⟩
  intro q' k n hleads hkn hturn hqueued
  have hmk := hleads.le
  rw [UInt32.lt_iff_toNat_lt] at hlead
  refine Scheduler.punctual_of_mem hqueued htime.symm ?_ hturn
  change _ < n + config.maxAdvance.toNat
  omega

/-- A reply that was handed in a tenth of a second before the counter's zero, for half a second
later. Another downlink is handed in at the zero. Twenty milliseconds before its target the reply is
taken, and a microsecond after its target it would have been dropped. -/
theorem enqueue_punctual_zero :
    let s := Scheduler.ofConfig {} (.fixed 50000)
    let reply := Packet.timestamped 1 [0x60] ⟨400000⟩ 869525000 (.loraDownlink 9 .khz125)
    let other := Packet.timestamped 2 [0x60] ⟨900000⟩ 869525000 (.loraDownlink 9 .khz125)
    let m := 2 ^ 32 - 100000
    let q := (s.enqueue {} (.ofTime m) reply .classA).queue
    let q' := (s.perform q (.enqueue (.ofTime (2 ^ 32)) other .classC)).queue
    Leads s (fun _ _ => True) q m q' (2 ^ 32) ∧ ∃ e ∈ q'.entries, e.packet = reply ∧
      e ∈ (s.drain (.ofTime (m + 480000)) q').1 ∧
      e ∉ (s.peek q' (.ofTime (m + 500001))).queue.entries := by
  intro s reply other m q q'
  have haccepted : (s.enqueue {} (.ofTime m) reply .classA).result = .ok ⟨400000⟩ := by
    decide +kernel
  have hnear : (⟨400000⟩ : Counter).since (.ofTime m) < QueueConfig.maxAdvance {} := by
    decide +kernel
  obtain ⟨e, t, hmem, hpacket, -, ht, -, hpunctual⟩ :=
    enqueue_punctual {} (.fixed 50000) haccepted hnear
  obtain rfl : t = m + 500000 := by rw [ht]; decide +kernel
  have hleads : Leads s (fun _ _ => True) q m q' (2 ^ 32) :=
    .step .refl (by decide) rfl trivial
  have hkeeps : ∀ e ∈ ((Scheduler.ofConfig {} (.fixed 50000)).enqueue {} (.ofTime m) reply
      .classA).queue.entries, e ∈ q'.entries := by
    decide +kernel
  have hqueued := hkeeps e hmem
  refine ⟨hleads, e, hqueued, hpacket, ?_, ?_⟩
  · apply (hpunctual hleads _ _ hqueued).drained.mpr
    all_goals decide +kernel
  · rw [(hpunctual hleads _ _ hqueued).peek]
    all_goals decide +kernel

end Downlink
