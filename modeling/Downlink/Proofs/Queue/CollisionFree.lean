import Downlink.Proofs.Queue.Request
import Mathlib.Data.List.Pairwise

/-!
# No two queued downlinks overlap

When a downlink is handed in, its window is compared with that of each queued entry, a queued beacon
giving up its guard if the newcomer may approach it. The comparison is one-sided: a beacon that is
handed in while such an entry is queued has to clear it with its whole guard. What the queue
promises is the same for both orders, and it is what remains true of two entries whichever came
first: between the two, a beacon's window begins where the other's class lets it begin (`Apart`).

The promise follows from the check because a shorter window overlaps less (`collides_mono`), and it
survives everything that only moves or loses entries.
-/

namespace Downlink

namespace Policy

variable {p : Policy}

theorem collides_comm (p : Policy) (a b : Window) : p.collides a b = p.collides b a :=
  Bool.or_comm ..

/-- Targets that coincide overlap, however short the windows are. -/
theorem collides_of_time_eq {a b : Window} (h : a.time = b.time) : p.collides a b = true := by
  rw [collides, h, Counter.since_self]
  exact Bool.or_eq_true_iff.mpr (.inl (decide_eq_true (Nat.zero_le _)))

/-- What clears a window clears a part of it that begins later. -/
theorem collides_mono {a a' b : Window} (htime : a'.time = a.time) (hpre : a'.pre ≤ a.pre)
    (hpost : a'.post = a.post) (h : p.collides a b = false) : p.collides a' b = false := by
  obtain ⟨hab, hba⟩ := Bool.or_eq_false_iff.mp h
  have hle : a'.pre.toNat ≤ a.pre.toNat := UInt32.le_iff_toNat_le.mp hpre
  refine Bool.or_eq_false_iff.mpr ⟨?_, ?_⟩
  · rw [htime]
    exact decide_eq_false fun hle' => of_decide_eq_false hab (by omega)
  · rw [htime, hpost]
    exact hba

theorem startDelay_le_preDelay (p : Policy) (c : TrafficClass) :
    p.startDelay ≤ p.preDelay c := by
  rw [UInt32.le_iff_toNat_le]
  have hlt := Span.toNat_lt p.startDelay
  cases c <;> simp only [preDelay, Span.toNat_plus] <;> omega

theorem jitDelay_le_preDelay (p : Policy) (c : TrafficClass) : p.jitDelay ≤ p.preDelay c := by
  rw [UInt32.le_iff_toNat_le]
  have hlt := Span.toNat_lt p.jitDelay
  cases c <;> simp only [preDelay, Span.toNat_plus] <;> omega

@[simp] theorem effective_time (p : Policy) (w : Window) (c d : TrafficClass) :
    (p.effective w c d).time = w.time := by
  rw [effective]
  split <;> rfl

@[simp] theorem effective_post (p : Policy) (w : Window) (c d : TrafficClass) :
    (p.effective w c d).post = w.post := by
  rw [effective]
  split <;> rfl

/-- Giving up a guard makes a window begin later, or leaves it alone. -/
theorem effective_pre_le {w : Window} (h : p.startDelay ≤ w.pre) (c d : TrafficClass) :
    (p.effective w c d).pre ≤ w.pre := by
  rw [effective]
  split
  · exact h
  · exact UInt32.le_refl _

end Policy

namespace Scheduler

variable {s : Scheduler} {q : Queue} {now : Counter}

/-- Two entries do not overlap, each window being taken as the other's class meets it. -/
def Apart (s : Scheduler) (a b : Entry) : Prop :=
  s.policy.collides (s.policy.effective a.window a.trafficClass b.trafficClass)
    (s.policy.effective b.window b.trafficClass a.trafficClass) = false

theorem Apart.symm {a b : Entry} (h : s.Apart a b) : s.Apart b a :=
  (s.policy.collides_comm _ _).trans h

theorem Apart.target_ne {a b : Entry} (h : s.Apart a b) : a.target ≠ b.target := by
  intro ht
  have hcol : s.policy.collides (s.policy.effective a.window a.trafficClass b.trafficClass)
      (s.policy.effective b.window b.trafficClass a.trafficClass) = true :=
    Policy.collides_of_time_eq (by rw [Policy.effective_time, Policy.effective_time]; exact ht)
  rw [h] at hcol
  cases hcol

/-- How long before its target an entry takes the radio as one of class `incoming` meets it. -/
def reach (s : Scheduler) (e : Entry) (incoming : TrafficClass) : Span :=
  (s.policy.effective e.window e.trafficClass incoming).pre

/-- An entry is met as early as it takes the radio, unless it is a beacon that may be approached. -/
theorem reach_eq_preDelay {e : Entry} {incoming : TrafficClass}
    (h : ¬(e.trafficClass = .beacon ∧ incoming.mayApproachBeacon = true)) :
    s.reach e incoming = e.preDelay := by
  rw [reach, Policy.effective, if_neg]
  · rfl
  · rw [Bool.and_eq_true, TrafficClass.isBeacon_iff]
    exact h

/-- A beacon that may be approached is met only when the radio starts it. -/
theorem reach_eq_startDelay {e : Entry} {incoming : TrafficClass} (he : e.trafficClass = .beacon)
    (h : incoming.mayApproachBeacon = true) : s.reach e incoming = s.policy.startDelay := by
  rw [reach, Policy.effective, if_pos]
  rw [Bool.and_eq_true, TrafficClass.isBeacon_iff]
  exact ⟨he, h⟩

/-- Going round from an entry to one that is apart, there is time for what lies between. -/
theorem Apart.reach_lt {a b : Entry} (h : s.Apart a b) :
    (s.reach a b.trafficClass).toNat + b.postDelay.toNat + s.policy.margin.toNat <
      (a.target.since b.target).toNat := by
  have hclear := (Bool.or_eq_false_iff.mp h).1
  rw [Policy.effective_time, Policy.effective_time, Policy.effective_post] at hclear
  exact Nat.lt_of_not_le (of_decide_eq_false hclear)

/-- The one-sided check at the door implies the promise between both. -/
theorem Admitted.apart {p : Packet} {c : TrafficClass} {e x : Entry}
    (h : s.Admitted q now p c e) (hx : x ∈ q.entries) : s.Apart e x := by
  have hclear : s.policy.collides e.window
      (s.policy.effective x.window x.trafficClass e.trafficClass) = false := by
    rw [h.trafficClass]
    exact h.clear x hx
  -- the newcomer had to clear `x` with its whole guard, and giving it up does no harm
  have hstart : s.policy.startDelay ≤ e.window.pre := by
    change s.policy.startDelay ≤ e.preDelay
    rw [h.preDelay]
    exact s.policy.startDelay_le_preDelay c
  exact Policy.collides_mono (s.policy.effective_time ..) (Policy.effective_pre_le hstart ..)
    (s.policy.effective_post ..) hclear

/-- Admitting an entry keeps all entries apart. -/
theorem Admitted.pairwise_apart {p : Packet} {c : TrafficClass} {e : Entry} {all : List Entry}
    (h : s.Admitted q now p c e) (hq : q.entries.Pairwise s.Apart)
    (hall : all.Perm (e :: q.entries)) : all.Pairwise s.Apart :=
  hall.symm.pairwise (List.pairwise_cons.mpr ⟨fun _ => h.apart, hq⟩) fun h => h.symm

/-- So does losing some. -/
theorem pairwise_apart_of_lost {gone left all : List Entry} (hall : (gone ++ left).Perm all)
    (h : all.Pairwise s.Apart) : left.Pairwise s.Apart :=
  (List.pairwise_append.mp (hall.symm.pairwise h fun h => h.symm)).2.1

/-- All entries of a reachable queue are apart. -/
theorem pairwise_apart_of_reachable (h : Reachable s q) : q.entries.Pairwise s.Apart :=
  h.entries_induction .nil pairwise_apart_of_lost Admitted.pairwise_apart

/-- Any two of them are, in whatever order they are queued. -/
theorem apart_of_mem {es : List Entry} (h : es.Pairwise s.Apart) {a b : Entry} (ha : a ∈ es)
    (hb : b ∈ es) (hne : a ≠ b) : s.Apart a b := by
  have hsymm : Std.Symm s.Apart := ⟨fun _ _ => Apart.symm⟩
  exact h.forall ha hb hne

end Scheduler

/-! ## The promise -/

/-- **No two queued downlinks overlap.** Of two entries of a queue that some requests lead to, in
whatever order they were handed in, neither reaches into the other's window, a beacon's window
beginning where the other's class lets it begin. In particular no two have the same target. -/
theorem reachable_collisionFree (config : QueueConfig) (airtime : AirtimeModel) {q : Queue}
    (h : Reachable (.ofConfig config airtime) q) {i j : Nat} (hi : i < q.entries.length)
    (hj : j < q.entries.length) (hij : i ≠ j) :
    (Policy.ofConfig config).collides
        ((Policy.ofConfig config).effective q.entries[i].window q.entries[i].trafficClass
          q.entries[j].trafficClass)
        ((Policy.ofConfig config).effective q.entries[j].window q.entries[j].trafficClass
          q.entries[i].trafficClass) = false ∧
      q.entries[i].target ≠ q.entries[j].target := by
  have hpair := List.pairwise_iff_getElem.mp (Scheduler.pairwise_apart_of_reachable h)
  have hapart : (Scheduler.ofConfig config airtime).Apart q.entries[i] q.entries[j] := by
    rcases Nat.lt_or_gt_of_ne hij with hlt | hgt
    · exact hpair i j hi hj hlt
    · exact (hpair j i hj hi hgt).symm
  exact ⟨hapart, hapart.target_ne⟩

/-- A class A reply that went into the guard of a queued beacon, 3.6 milliseconds before it. -/
theorem reachable_collisionFree_guard :
    let s := Scheduler.ofConfig {} (.fixed 1000)
    let beacon := Packet.timestamped 0 [0] ⟨103600⟩ 869525000 (.loraBeacon 9 .khz125)
    let reply := Packet.timestamped 1 [0x60] ⟨100000⟩ 869525000 (.loraDownlink 9 .khz125)
    let q := (s.perform (s.perform {} (.enqueue ⟨0⟩ beacon .beacon)).queue
      (.enqueue ⟨0⟩ reply .classA)).queue
    Reachable s q ∧ q.entries.map (·.trafficClass) = [.classA, .beacon] ∧
    ∃ (hi : 0 < q.entries.length) (hj : 1 < q.entries.length),
      (Policy.ofConfig {}).collides
        ((Policy.ofConfig {}).effective q.entries[0].window q.entries[0].trafficClass
          q.entries[1].trafficClass)
        ((Policy.ofConfig {}).effective q.entries[1].window q.entries[1].trafficClass
          q.entries[0].trafficClass) = false ∧
      q.entries[0].target ≠ q.entries[1].target := by
  intro s beacon reply q
  have h : Reachable s q := .step _ (.step _ .fresh)
  have hi : 0 < q.entries.length := by decide
  have hj : 1 < q.entries.length := by decide
  refine ⟨h, by decide, hi, hj, ?_⟩
  exact reachable_collisionFree {} (.fixed 1000) h hi hj (by decide)

end Downlink
