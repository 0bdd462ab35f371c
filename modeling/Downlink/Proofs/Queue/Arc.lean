import Downlink.Proofs.Queue.CollisionFree
import Downlink.Proofs.Queue.Outcome
import Downlink.Proofs.Queue.Rotation
import Mathlib.Data.Int.ConditionallyCompleteOrder
import Mathlib.Order.CompletePartialOrder
import Mathlib.Order.ConditionallyCompleteLattice.Basic

/-!
# Windows as arcs

On the line of time, unbounded in both directions, a window is an interval around its target. The
counter rolls the line up into a circle, and what is left of the window is an **arc**: the readings
at the times of the interval (`Window.arc`). Delays may be nearly a turn long, so an arc may go
round the circle and begin to cover itself.

The queue never looks at arcs. It compares two distances with two sums (`Policy.collides`), and that
is the same as asking whether the arcs share a reading, one of them widened by the margin
(`Policy.collides_iff_arc`). Two arcs share a reading just when their intervals meet after one was
shifted by whole turns (`Counter.arc_inter_nonempty`). Of all shifts two matter, the one that puts
the one target last before the other and the one that puts it first behind, and the two distances
are those of these two.
-/

namespace Downlink

/-! ## Arcs of the circle -/

namespace Counter

/-- What the counter shows at a time, which may lie before the one that is called zero. -/
def ofInt (time : Int) : Counter := ⟨.ofInt time⟩

theorem toNat_ofInt (time : Int) : ((ofInt time).ticks.toNat : Int) = time % 2 ^ 32 := by
  change ((UInt32.ofNat (time % 2 ^ 32).toNat).toNat : Int) = _
  rw [UInt32.toNat_ofNat']
  omega

/-- The counter shows the same at times that are whole turns apart, and only at those. -/
theorem ofInt_eq_ofInt_iff {x y : Int} :
    ofInt x = ofInt y ↔ ∃ turns : Int, x = y + turns * 2 ^ 32 := by
  have hx := toNat_ofInt x
  have hy := toNat_ofInt y
  constructor
  · intro h
    rw [h, hy] at hx
    exact ⟨x / 2 ^ 32 - y / 2 ^ 32, by omega⟩
  · rintro ⟨turns, rfl⟩
    apply ext_ticks
    omega

/-- The readings at the times from one to another, both included. -/
def arc (first last : Int) : Set Counter := ofInt '' Set.Icc first last

/-- Two arcs share a reading just when their intervals meet after one is shifted by whole turns. -/
theorem arc_inter_nonempty {a b c d : Int} : (arc a b ∩ arc c d).Nonempty ↔
    a ≤ b ∧ c ≤ d ∧ ∃ turns : Int, a ≤ d + turns * 2 ^ 32 ∧ c + turns * 2 ^ 32 ≤ b := by
  constructor
  · rintro ⟨_, ⟨x, ⟨hax, hxb⟩, rfl⟩, ⟨y, ⟨hcy, hyd⟩, hxy⟩⟩
    obtain ⟨turns, rfl⟩ := ofInt_eq_ofInt_iff.mp hxy.symm
    exact ⟨by omega, by omega, turns, by omega, by omega⟩
  · rintro ⟨hab, hcd, turns, had, hcb⟩
    -- the later of the two beginnings is in both
    refine ⟨ofInt (max a (c + turns * 2 ^ 32)), ⟨_, ⟨by omega, by omega⟩, rfl⟩,
      ⟨max a (c + turns * 2 ^ 32) - turns * 2 ^ 32, ⟨by omega, by omega⟩, ?_⟩⟩
    exact ofInt_eq_ofInt_iff.mpr ⟨-turns, by omega⟩

/-- Going forward from one reading for the distance to another ends there, whole turns apart. -/
theorem exists_turns (a b : Counter) : ∃ turns : Int,
    (a.ticks.toNat : Int) = b.ticks.toNat + (a.since b).toNat + turns * 2 ^ 32 := by
  have hb := UInt32.toNat_lt b.ticks
  rw [toNat_since]
  exact ⟨((a.ticks.toNat : Int) - b.ticks.toNat) / 2 ^ 32, by omega⟩

/-- No way forward from one reading to another is shorter than the distance. -/
theorem toNat_since_le {a b : Counter} {turns : Int}
    (h : (b.ticks.toNat : Int) + turns * 2 ^ 32 ≤ a.ticks.toNat) :
    ((a.since b).toNat : Int) ≤ a.ticks.toNat - (b.ticks.toNat + turns * 2 ^ 32) := by
  have hb := UInt32.toNat_lt b.ticks
  rw [toNat_since]
  omega

end Counter

/-- The readings at which a window takes the radio, or would if it were longer by the margin at both
ends. -/
def Window.arc (w : Window) (margin : Span) : Set Counter :=
  Counter.arc (w.time.ticks.toNat - w.pre.toNat - margin.toNat)
    (w.time.ticks.toNat + w.post.toNat + margin.toNat)

/-- Two windows overlap just when their arcs share a reading, one of them with the margin. -/
theorem Policy.collides_iff_arc (p : Policy) (a b : Window) :
    p.collides a b = true ↔ (a.arc p.margin ∩ b.arc 0).Nonempty := by
  have hzero : (0 : Span).toNat = 0 := rfl
  rw [collides, Bool.or_eq_true, decide_eq_true_iff, decide_eq_true_iff, Window.arc, Window.arc,
    Counter.arc_inter_nonempty, hzero]
  constructor
  · rintro (hahead | hbehind)
    · obtain ⟨turns, hturns⟩ := Counter.exists_turns a.time b.time
      exact ⟨by omega, by omega, turns, by omega, by omega⟩
    · obtain ⟨turns, hturns⟩ := Counter.exists_turns b.time a.time
      exact ⟨by omega, by omega, -turns, by omega, by omega⟩
  · rintro ⟨-, -, turns, hahead, hbehind⟩
    -- the shifted target of `b` lies behind that of `a` or ahead of it
    rcases Int.le_total (b.time.ticks.toNat + turns * 2 ^ 32) a.time.ticks.toNat with hle | hge
    · have hleast := Counter.toNat_since_le hle
      exact .inl (by omega)
    · have hle : (a.time.ticks.toNat : Int) + -turns * 2 ^ 32 ≤ b.time.ticks.toNat := by omega
      have hleast := Counter.toNat_since_le hle
      exact .inr (by omega)

namespace Scheduler

variable {s : Scheduler}

/-- A window clears an entry just when their arcs have no reading in common. -/
theorem overlaps_eq_false_iff_disjoint {e : Entry} {w : Window} {c : TrafficClass} :
    s.overlaps e w c = false ↔ Disjoint (w.arc s.policy.margin)
      ((s.policy.effective e.window e.trafficClass c).arc 0) := by
  rw [← Bool.not_eq_true, overlaps, Policy.collides_iff_arc, ← Set.not_disjoint_iff_nonempty_inter,
    not_not]

end Scheduler

/-! ## What overlap means -/

/-- **Overlap is geometry.** Two windows overlap just when their arcs of the circle, one of them
widened by the margin, have a reading in common; so it does not matter which of them is widened, nor
where the counter's zero lies. A well-formed downlink that comes with its target, and that is not
refused because the queue is full, is accepted just when there is time left to program the radio,
the target is not too early for a class that is bounded, and its widened arc has no reading in
common with that of any queued entry, as its class meets it. -/
theorem overlap_iff_arcs :
    (∀ (p : Policy) (a b : Window),
      p.collides a b = true ↔ (a.arc p.margin ∩ b.arc 0).Nonempty) ∧
    (∀ (p : Policy) (a b : Window), p.collides a b = p.collides b a) ∧
    (∀ (p : Policy) (a b : Window) (d : Span),
      p.collides (a.rotate d) (b.rotate d) = p.collides a b) ∧
    ∀ (config : QueueConfig) (airtime : AirtimeModel) (q : Queue) (now : Counter) (p : Packet)
      (c : TrafficClass),
      let s := Scheduler.ofConfig config airtime
      p.isWellFormed = true → p.mode = .timestamped →
      (∀ back, (s.enqueue q now p c).result ≠ .error ⟨.full, back⟩) →
      ((∃ target, (s.enqueue q now p c).result = .ok target) ↔
        s.policy.minLead < p.target.since now ∧
        (c = .classA ∨ c = .classB → p.target.since now ≤ s.policy.maxAdvance) ∧
        ∀ e ∈ q.entries, Disjoint
          ((s.policy.window p.target c (airtime p)).arc s.policy.margin)
          ((s.policy.effective e.window e.trafficClass c).arc 0)) := by
  refine ⟨Policy.collides_iff_arc, Policy.collides_comm, fun p a b d => p.collides_rotate d a b, ?_⟩
  intro config airtime q now p c s hformed hmode hnotfull
  have hroom : s.HasRoom q c := by
    by_contra hnone
    have hentry := Scheduler.entryRefusal?_of_not_hasRoom hformed (by simp [hmode]) hnone
    have hfull : s.outcome q now p c = .error .full := Scheduler.outcome_of_entryRefusal? hentry
    obtain ⟨back, hback⟩ := Scheduler.enqueue_eq_error_iff.mpr hfull
    exact hnotfull back hback
  have htime : s.timeOnAir p = airtime p := if_pos hformed
  have haccepts : s.Accepts q now p c ↔ _ := Scheduler.accepts_iff hmode
  simp only [hroom, Scheduler.Timely, hformed, true_and, TrafficClass.isAdvanceBounded_iff,
    and_assoc, Scheduler.overlaps_eq_false_iff_disjoint] at haccepts
  rw [Scheduler.timed, htime] at haccepts
  exact haccepts

/-- A class A reply 3.6 milliseconds before a queued beacon. Its arc has nothing in common with that
of the beacon, which gives up its guard; that of a class B downlink there has. -/
theorem overlap_iff_arcs_guard :
    let s := Scheduler.ofConfig {} (.fixed 1000)
    let beacon := Packet.timestamped 0 [0] ⟨103600⟩ 869525000 (.loraBeacon 9 .khz125)
    let reply := Packet.timestamped 1 [0x60] ⟨100000⟩ 869525000 (.loraDownlink 9 .khz125)
    let q := (s.perform {} (.enqueue ⟨0⟩ beacon .beacon)).queue
    let clears := fun c => ∀ e ∈ q.entries, Disjoint
      ((s.policy.window reply.target c 1000).arc s.policy.margin)
      ((s.policy.effective e.window e.trafficClass c).arc 0)
    Reachable s q ∧ q.entries ≠ [] ∧ reply.isWellFormed = true ∧ reply.mode = .timestamped ∧
      (∀ c ∈ [TrafficClass.classA, .classB], ∀ back,
        (s.enqueue q ⟨0⟩ reply c).result ≠ .error ⟨.full, back⟩) ∧
      clears .classA ∧ ¬clears .classB := by
  intro s beacon reply q clears
  have haccepted : (s.enqueue q ⟨0⟩ reply .classA).result = .ok ⟨100000⟩ := by decide +kernel
  have hrefused : (s.enqueue q ⟨0⟩ reply .classB).result = .error ⟨.collisionBeacon, reply⟩ := by
    decide +kernel
  have hroom : ∀ c ∈ [TrafficClass.classA, .classB], ∀ back,
      (s.enqueue q ⟨0⟩ reply c).result ≠ .error ⟨.full, back⟩ := by
    simp [haccepted, hrefused]
  have hmeans := overlap_iff_arcs.2.2.2 {} (.fixed 1000) q ⟨0⟩ reply
  refine ⟨.step _ .fresh, by decide +kernel, by decide, rfl, hroom, ?_, ?_⟩
  · exact ((hmeans .classA (by decide) rfl (hroom .classA (by decide))).mp ⟨_, haccepted⟩).2.2
  · intro hclears
    have hlead : s.policy.minLead < reply.target.since ⟨0⟩ ∧
        (TrafficClass.classB = .classA ∨ TrafficClass.classB = .classB →
          reply.target.since ⟨0⟩ ≤ s.policy.maxAdvance) := by
      decide
    obtain ⟨target, htarget⟩ := (hmeans .classB (by decide) rfl (hroom .classB (by decide))).mpr
      ⟨hlead.1, hlead.2, hclears⟩
    rw [hrefused] at htarget
    cases htarget

end Downlink
