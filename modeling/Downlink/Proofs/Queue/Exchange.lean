import Downlink.Proofs.Queue.Order
import Downlink.Proofs.Queue.Outcome

/-!
# Two downlinks in either order

Two downlinks that come with their targets are handed in at the same time, one behind the other.
Whether there is room for both does not depend on which goes first: a beacon needs no more room than
data, and one that is queued leaves room for as much data as it takes up
(`Scheduler.HasRoom.exchange`). Nor does it matter for their windows, unless the one that goes first
is a beacon and gives up its guard to the other, which it would not if it came second.

If both are accepted in either order, the queues that are left have the same entries. They are
sorted as seen from the same point, and since entries that are apart have different targets, there
is only one order for them (`Vantage.Ascending.eq_of_perm`).
-/

namespace Downlink

/-- Entries in strict order are in the only order there is for them. -/
theorem Vantage.Ascending.eq_of_perm {v : Vantage} {es fs : List Entry} (hes : v.Ascending es)
    (hfs : v.Ascending fs) (h : es.Perm fs) : es = fs := by
  refine h.eq_of_pairwise ?_ hes hfs
  intro a b _ _ hab hba
  exact absurd hba (UInt32.not_lt.mpr (UInt32.le_of_lt hab))

namespace Scheduler

variable {s : Scheduler} {q : Queue} {now : Counter} {p x y : Packet} {c d : TrafficClass}

/-! ## Taking one in -/

/-- A queue comes of another one by taking a downlink in. -/
structure Gains (s : Scheduler) (now : Counter) (p : Packet) (c : TrafficClass) (q q' : Queue) :
    Prop where
  /-- its entry joins the others -/
  perm : q'.entries.Perm (s.timed p c :: q.entries)
  /-- it is counted if it is a beacon -/
  beaconCount : q'.beaconCount = if c = .beacon then q.beaconCount + 1 else q.beaconCount
  /-- the queue has heard of the time -/
  reference : q'.reference = now
  /-- and is in order as seen from there -/
  inOrder : s.InOrder q'

theorem Accepts.gains (h : s.Accepts q now p c) (hmode : p.mode = .timestamped) :
    s.Gains now p c q (s.enqueue q now p c).queue := by
  obtain ⟨target, htarget⟩ := h
  rcases s.enqueue_cases q now p c with ⟨e, he, -, hqueue⟩ | ⟨r, -, herror, -⟩
  · obtain rfl := he.eq_timed hmode
    have hbeacon : (s.timed p c).trafficClass.isBeacon = true ↔ c = .beacon :=
      TrafficClass.isBeacon_iff
    have horder : s.InOrder (s.push { q with reference := now } (s.timed p c)) :=
      s.inOrder_sorted _
    rw [hqueue]
    refine ⟨s.push_perm _ _, ?_, rfl, horder⟩
    simp only [push, sorted, hbeacon]
  · rw [herror] at htarget
    cases htarget

/-! ## Taking two in -/

/-- What there is room for when one more was taken in, there was room for before. -/
theorem HasRoom.before {q₁ : Queue} (hx : s.Gains now x c q q₁) (h : s.HasRoom q₁ d) :
    s.HasRoom q d := by
  have hlength : q₁.entries.length = q.entries.length + 1 := hx.perm.length_eq
  obtain ⟨hfull, hdata⟩ := h
  refine ⟨by omega, ?_⟩
  rw [dataLimit, hx.beaconCount, hlength] at hdata
  rw [dataLimit]
  -- a beacon raises the limit by no more than it takes up
  rcases hdata with hbeacon | hnone | hfits
  · exact .inl hbeacon
  · exact .inr (.inl hnone)
  · refine .inr (.inr ?_)
    split at hfits <;> omega

/-- Room for two is room for them in the other order. -/
theorem HasRoom.exchange {q₁ q₂ : Queue} (hx : s.Gains now x c q q₁) (hy : s.Gains now y d q q₂)
    (hfirst : s.HasRoom q c) (hsecond : s.HasRoom q₁ d) : s.HasRoom q₂ c := by
  have hlength₁ : q₁.entries.length = q.entries.length + 1 := hx.perm.length_eq
  have hlength₂ : q₂.entries.length = q.entries.length + 1 := hy.perm.length_eq
  obtain ⟨-, hdata₁⟩ := hfirst
  obtain ⟨hfull, hdata₂⟩ := hsecond
  refine ⟨by omega, ?_⟩
  rw [dataLimit] at hdata₁
  rw [dataLimit, hx.beaconCount, hlength₁] at hdata₂
  rw [dataLimit, hy.beaconCount, hlength₂]
  -- data that goes second has what the beacon leaves free, or as much as data that goes first left
  by_cases hc : c = .beacon
  · exact .inl hc
  by_cases hd : d = .beacon <;>
    simp only [hc, hd, if_true, if_false, false_or] at * <;> omega

/-- A downlink that clears one that went first is cleared by that, if the first keeps its whole
window for it. -/
theorem overlaps_timed_swap (hguard : ¬(c = .beacon ∧ d.mayApproachBeacon = true))
    (h : s.overlaps (s.timed x c) (s.timed y d).window d = false) :
    s.overlaps (s.timed y d) (s.timed x c).window c = false := by
  have hwhole : s.policy.effective (s.timed x c).window c d = (s.timed x c).window := by
    rw [Policy.effective, if_neg]
    rwa [Bool.and_eq_true, TrafficClass.isBeacon_iff]
  have hclear : s.policy.collides (s.timed y d).window (s.timed x c).window = false := by
    rw [← hwhole]
    exact h
  rw [overlaps, Policy.collides_comm]
  exact Policy.collides_mono (s.policy.effective_time ..)
    (Policy.effective_pre_le (s.policy.startDelay_le_preDelay d) ..)
    (s.policy.effective_post ..) hclear

/-- Two downlinks are accepted that are handed in at the same time, one behind the other. -/
def TakesBoth (s : Scheduler) (q : Queue) (now : Counter) (x : Packet) (c : TrafficClass)
    (y : Packet) (d : TrafficClass) : Prop :=
  s.Accepts q now x c ∧ s.Accepts (s.enqueue q now x c).queue now y d

instance (s : Scheduler) (q : Queue) (now : Counter) (x : Packet) (c : TrafficClass) (y : Packet)
    (d : TrafficClass) : Decidable (s.TakesBoth q now x c y d) :=
  inferInstanceAs (Decidable (_ ∧ _))

/-- The queue after two downlinks were handed in, one behind the other. -/
def afterBoth (s : Scheduler) (q : Queue) (now : Counter) (x : Packet) (c : TrafficClass)
    (y : Packet) (d : TrafficClass) : Queue :=
  (s.enqueue (s.enqueue q now x c).queue now y d).queue

/-- Two that are accepted in one order are accepted in the other, unless the first is a beacon that
the second may approach. -/
theorem TakesBoth.exchange (h : s.TakesBoth q now x c y d) (hx : x.mode = .timestamped)
    (hy : y.mode = .timestamped) (hguard : ¬(c = .beacon ∧ d.mayApproachBeacon = true)) :
    s.TakesBoth q now y d x c := by
  obtain ⟨hfirst, hsecond⟩ := h
  have hgains := hfirst.gains hx
  obtain ⟨hroom₁, htimely₁, hclear₁⟩ := (accepts_iff hx).mp hfirst
  obtain ⟨hroom₂, htimely₂, hclear₂⟩ := (accepts_iff hy).mp hsecond
  have hother : s.Accepts q now y d := by
    refine (accepts_iff hy).mpr ⟨hroom₂.before hgains, htimely₂, fun e he => ?_⟩
    exact hclear₂ e (hgains.perm.mem_iff.mpr (List.mem_cons_of_mem _ he))
  have hgains' := hother.gains hy
  refine ⟨hother, (accepts_iff hx).mpr ⟨hroom₁.exchange hgains hgains' hroom₂, htimely₁, ?_⟩⟩
  intro e he
  rcases List.mem_cons.mp (hgains'.perm.mem_iff.mp he) with rfl | he
  · have hmem : s.timed x c ∈ (s.enqueue q now x c).queue.entries :=
      hgains.perm.mem_iff.mpr (List.mem_cons_self ..)
    exact overlaps_timed_swap hguard (hclear₂ _ hmem)
  · exact hclear₁ e he

/-- Whichever goes first, the queue that is left has the same entries and counts as many beacons. -/
theorem TakesBoth.agree (h : s.TakesBoth q now x c y d) (h' : s.TakesBoth q now y d x c)
    (hx : x.mode = .timestamped) (hy : y.mode = .timestamped) (hreachable : Reachable s q) :
    (s.afterBoth q now x c y d).entries = (s.afterBoth q now y d x c).entries ∧
      (s.afterBoth q now x c y d).beaconCount = (s.afterBoth q now y d x c).beaconCount := by
  have hfirst := h.1.gains hx
  have hsecond := h.2.gains hy
  have hfirst' := h'.1.gains hy
  have hsecond' := h'.2.gains hx
  have hreach : Reachable s (s.afterBoth q now x c y d) :=
    .step (.enqueue now y d) (.step (.enqueue now x c) hreachable)
  have hreach' : Reachable s (s.afterBoth q now y d x c) :=
    .step (.enqueue now x c) (.step (.enqueue now y d) hreachable)
  have hascending := hsecond.inOrder.ascending (pairwise_apart_of_reachable hreach)
  have hascending' := hsecond'.inOrder.ascending (pairwise_apart_of_reachable hreach')
  rw [vantage, hsecond.reference] at hascending
  rw [vantage, hsecond'.reference] at hascending'
  have hperm := hsecond.perm.trans (hfirst.perm.cons _)
  have hperm' := hsecond'.perm.trans (hfirst'.perm.cons _)
  refine ⟨hascending.eq_of_perm hascending' ?_, ?_⟩
  · exact hperm.trans ((List.Perm.swap ..).trans hperm'.symm)
  · rw [afterBoth, afterBoth, hsecond.beaconCount, hsecond'.beaconCount, hfirst.beaconCount,
      hfirst'.beaconCount]
    split <;> split <;> rfl

end Scheduler

/-! ## The order does not matter -/

/-- **Compatible downlinks can be handed in in either order.** Of two downlinks that come with their
targets and are handed in to a reachable queue at the same time, both are accepted in one order just
when both are in the other, unless one is a beacon and the other one that may approach it; and then
the queue that is left has the same entries and beacons. Of a beacon and one that may approach it,
both are accepted with the beacon first if they are with the beacon second, and with the same
queue left. -/
theorem enqueue_exchange (config : QueueConfig) (airtime : AirtimeModel) {q : Queue}
    (hreachable : Reachable (.ofConfig config airtime) q) (now : Counter) {x y : Packet}
    (hx : x.mode = .timestamped) (hy : y.mode = .timestamped) (c d : TrafficClass) :
    let s := Scheduler.ofConfig config airtime
    let same := (s.afterBoth q now x c y d).entries = (s.afterBoth q now y d x c).entries ∧
      (s.afterBoth q now x c y d).beaconCount = (s.afterBoth q now y d x c).beaconCount
    (¬(c = .beacon ∧ (d = .classA ∨ d = .classC)) → ¬(d = .beacon ∧ (c = .classA ∨ c = .classC)) →
      (s.TakesBoth q now x c y d ↔ s.TakesBoth q now y d x c) ∧
      (s.TakesBoth q now x c y d → same)) ∧
    (c = .classA ∨ c = .classC → d = .beacon → s.TakesBoth q now x c y d →
      s.TakesBoth q now y d x c ∧ same) := by
  intro s same
  refine ⟨?compatible, ?guarded⟩
  case compatible =>
    intro hcd hdc
    rw [← TrafficClass.mayApproachBeacon_iff] at hcd hdc
    have hiff : s.TakesBoth q now x c y d ↔ s.TakesBoth q now y d x c :=
      ⟨fun h => h.exchange hx hy hcd, fun h => h.exchange hy hx hdc⟩
    exact ⟨hiff, fun h => h.agree (hiff.mp h) hx hy hreachable⟩
  case guarded =>
    intro hc hd h
    have hdata : ¬(c = .beacon ∧ d.mayApproachBeacon = true) := by
      rintro ⟨rfl, -⟩
      simp at hc
    have h' := h.exchange hx hy hdata
    exact ⟨h', h.agree h' hx hy hreachable⟩

/-- A reply and a ping slot downlink that go before and behind a queued class C downlink, and the
same reply with a beacon seconds later. -/
theorem enqueue_exchange_reply :
    let s := Scheduler.ofConfig {} (.fixed 50000)
    let frame (target : UInt32) :=
      Packet.timestamped 1 [0x60] ⟨target⟩ 869525000 (.loraDownlink 9 .khz125)
    let q := (s.perform {} (.enqueue ⟨0⟩ (frame 300000) .classC)).queue
    Reachable s q ∧ q.entries ≠ [] ∧
    s.TakesBoth q ⟨0⟩ (frame 600000) .classB (frame 100000) .classA ∧
    (s.afterBoth q ⟨0⟩ (frame 100000) .classA (frame 600000) .classB).entries =
      (s.afterBoth q ⟨0⟩ (frame 600000) .classB (frame 100000) .classA).entries ∧
    s.TakesBoth q ⟨0⟩ (frame 8000000) .beacon (frame 100000) .classA ∧
    (s.afterBoth q ⟨0⟩ (frame 100000) .classA (frame 8000000) .beacon).beaconCount =
      (s.afterBoth q ⟨0⟩ (frame 8000000) .beacon (frame 100000) .classA).beaconCount := by
  intro s frame q
  have hreachable : Reachable s q := .step _ .fresh
  have hping : s.TakesBoth q ⟨0⟩ (frame 100000) .classA (frame 600000) .classB := by
    decide +kernel
  have hbeacon : s.TakesBoth q ⟨0⟩ (frame 100000) .classA (frame 8000000) .beacon := by
    decide +kernel
  obtain ⟨hcompatible, -⟩ :=
    enqueue_exchange {} (.fixed 50000) hreachable ⟨0⟩ (x := frame 100000) (y := frame 600000) rfl
      rfl .classA .classB
  obtain ⟨hiff, hsame⟩ := hcompatible (by decide) (by decide)
  obtain ⟨-, hguarded⟩ :=
    enqueue_exchange {} (.fixed 50000) hreachable ⟨0⟩ (x := frame 100000) (y := frame 8000000) rfl
      rfl .classA .beacon
  obtain ⟨hfirst, hsame'⟩ := hguarded (.inl rfl) rfl hbeacon
  exact ⟨hreachable, by decide +kernel, hiff.mp hping, (hsame hping).1, hfirst, hsame'.2⟩

/-- A reply that is close to a beacon may be handed in when that is queued, but not the beacon when
the reply is. -/
example :
    let s := Scheduler.ofConfig {} (.fixed 1000)
    let beacon := Packet.timestamped 0 [0] ⟨103600⟩ 869525000 (.loraBeacon 9 .khz125)
    let reply := Packet.timestamped 1 [0x60] ⟨100000⟩ 869525000 (.loraDownlink 9 .khz125)
    s.TakesBoth {} ⟨0⟩ beacon .beacon reply .classA ∧
      ¬s.TakesBoth {} ⟨0⟩ reply .classA beacon .beacon := by
  decide +kernel

end Downlink
