import Downlink.Beacon
import Downlink.Config
import Downlink.Proofs.Clock.Distance
import Mathlib.Data.List.Chain

/-!
# The slots of a beacon planner

Slots lie on a grid in unbounded time, one every period after the start (`Grid`). A planner keeps of
all this a single reading, that of its next slot. As long as it is asked at least once every half
turn, and the horizon and a period together stay below half a turn, that reading stands for one slot
only (`BeaconPlanner.Awaits`): it lies ahead of the last call, and no farther than the horizon and a
period. So a call takes a slot for missed just when it is (`skipMissed_eq`), and what it hands out
lies between now and the horizon (`handOut_eq`).

Calls therefore go through the grid in order and leave nothing out (`planner_consumes`). A slot that
is neither skipped nor handed out is still to come.
-/

namespace Downlink

/-! ## The grid -/

/-- Times at equal distances. -/
structure Grid where
  /-- the time it is counted from -/
  start : Nat
  /-- the time from one slot to the next -/
  period : Nat

namespace Grid

variable {g : Grid}

/-- The time of the slot with a number. -/
def slot (g : Grid) (k : Nat) : Nat := g.start + k * g.period

/-- What the counter shows at that time. -/
def reading (g : Grid) (k : Nat) : Counter := .ofTime (g.slot k)

theorem slot_add (g : Grid) (k i : Nat) : g.slot (k + i) = g.slot k + i * g.period := by
  rw [slot, slot, Nat.add_mul, Nat.add_assoc]

theorem slot_succ (g : Grid) (k : Nat) : g.slot (k + 1) = g.slot k + g.period := by
  rw [slot_add, Nat.one_mul]

theorem slot_mono {k l : Nat} (h : k ≤ l) : g.slot k ≤ g.slot l :=
  Nat.add_le_add_left (Nat.mul_le_mul_right _ h) _

/-- Going on by some periods leads from slot to slot. -/
theorem reading_after {d : Span} {i : Nat} (h : d.toNat = i * g.period) (k : Nat) :
    (g.reading k).after d = g.reading (k + i) := by
  rw [reading, reading, Counter.ofTime_after, slot_add, h]

end Grid

/-! ## Calls -/

/-- What became of some slots, given by their numbers, when a planner was asked. -/
structure PlannerCall where
  /-- when it was asked -/
  now : Nat
  /-- the slots that had passed -/
  skipped : List Nat
  /-- the slots that were handed out -/
  handedOut : List Nat

namespace PlannerCall

/-- The slots the planner was done with at that call. -/
def consumed (c : PlannerCall) : List Nat := c.skipped ++ c.handedOut

/-- What was skipped had passed, and what was handed out lay within the horizon. -/
structure Proper (g : Grid) (horizon : Nat) (c : PlannerCall) : Prop where
  /-- it lay before now -/
  skipped : ∀ k ∈ c.skipped, g.slot k < c.now
  /-- it lay between now and the horizon -/
  handedOut : ∀ k ∈ c.handedOut, c.now ≤ g.slot k ∧ g.slot k ≤ c.now + horizon

end PlannerCall

namespace BeaconPlanner

variable {b : BeaconPlanner} {g : Grid} {k m n : Nat}

/-- Asks a planner at one time after another. Gives the answers in order, and the planner
afterwards. -/
def run (b : BeaconPlanner) : List Nat → List (List Counter) × BeaconPlanner
  | [] => ([], b)
  | n :: ns =>
    let first := b.due (.ofTime n)
    let rest := first.2.run ns
    (first.1 :: rest.1, rest.2)

/-- The planner is through with all slots of the grid before the one with number `k`, which lies
ahead of the time it was last asked at. -/
structure Awaits (b : BeaconPlanner) (g : Grid) (k last : Nat) : Prop where
  /-- it plans with the period of the grid -/
  period : b.period.toNat = g.period
  /-- which is not nothing -/
  period_pos : 0 < g.period
  /-- it plans at least one slot ahead -/
  ahead : 0 < b.ahead.toNat
  /-- what it looks at stays within half a turn -/
  half_turn : b.horizon.toNat + g.period ≤ 2 ^ 31 - 1
  /-- its next slot has that number -/
  next : b.next = g.reading k
  /-- the slot lies ahead -/
  later : last < g.slot k
  /-- and not far beyond the horizon -/
  near : g.slot k ≤ last + b.horizon.toNat + g.period

/-! ## Missed slots -/

/-- The planner skips the slots before now and no others. -/
theorem Awaits.skipMissed_eq (h : b.Awaits g k m) (hmn : m ≤ n) (hgap : n ≤ m + (2 ^ 31 - 1)) :
    ∃ i, b.skipMissed (.ofTime n) = { b with next := g.reading (k + i) } ∧
      (∀ l ∈ List.range' k i, g.slot l < n) ∧ n ≤ g.slot (k + i) ∧
      g.slot (k + i) ≤ n + b.horizon.toNat + g.period := by
  obtain ⟨hperiod, hpos, -, hhalf, hnext, hlater, hnear⟩ := h
  rcases Nat.lt_or_ge (g.slot k) n with hmissed | hcomes
  · have hbehind : ((Counter.ofTime n).since b.next).toNat = n - g.slot k := by
      rw [hnext]
      exact Counter.toNat_since_ofTime_of_le (Nat.le_of_lt hmissed) (by omega)
    have hpassed : (Counter.ofTime n).since b.next ≠ 0 ∧
        (Counter.ofTime n).since b.next < 2147483647 := by
      rw [Ne, ← UInt32.toNat_inj, UInt32.lt_iff_toNat_lt, hbehind]
      change ¬n - g.slot k = 0 ∧ n - g.slot k < 2147483647
      omega
    -- the number of periods that have begun since
    obtain ⟨missed, hcount⟩ : ∃ missed, missed = (n - g.slot k + g.period - 1) / g.period :=
      ⟨_, rfl⟩
    have hceil : missed * g.period ≤ n - g.slot k + g.period - 1 ∧
        n - g.slot k + g.period - 1 < missed * g.period + g.period := by
      rw [hcount]
      exact ⟨Nat.div_mul_le_self .., Nat.lt_div_mul_add hpos⟩
    have hstep : (Span.clamp (missed * g.period)).toNat = missed * g.period := by
      rw [Span.toNat_clamp]
      omega
    have hslot := g.slot_add k missed
    refine ⟨missed, ?_, ?_, by omega, by omega⟩
    · simp only [skipMissed]
      rw [if_pos hpassed, hbehind, hperiod, ← hcount, hnext, Grid.reading_after hstep]
    · intro l hl
      have hlast : g.slot (l + 1) ≤ g.slot (k + missed) := by
        apply Grid.slot_mono
        have hrange := List.mem_range'_1.mp hl
        omega
      rw [Grid.slot_succ] at hlast
      omega
  · refine ⟨0, ?_, by simp, hcomes, Nat.le_trans hnear (by omega)⟩
    have hkept : ¬((Counter.ofTime n).since b.next ≠ 0 ∧
        (Counter.ofTime n).since b.next < 2147483647) := by
      rw [Ne, ← UInt32.toNat_inj, UInt32.lt_iff_toNat_lt, hnext, Grid.reading]
      rcases Nat.eq_or_lt_of_le hcomes with rfl | hahead
      · simp
      · rw [Counter.toNat_since_ofTime_of_lt hahead (by omega)]
        change ¬(_ ∧ _ < 2147483647)
        omega
    simp only [skipMissed]
    rw [if_neg hkept, Nat.add_zero, ← hnext]

/-! ## Slots that are handed out -/

/-- The planner hands out slots in order, all of them within the horizon. The induction is on how
many it may hand out; each slot is handed out or ends the answer. -/
theorem handOut_eq (hperiod : b.period.toNat = g.period) (hpos : 0 < g.period)
    (hhalf : b.horizon.toNat + g.period ≤ 2 ^ 31 - 1) (most : Nat) (hahead : n ≤ g.slot k)
    (hnear : g.slot k ≤ n + b.horizon.toNat + g.period) :
    ∃ j, handOut (.ofTime n) most { b with next := g.reading k } =
        ((List.range' k j).map g.reading, { b with next := g.reading (k + j) }) ∧
      (∀ l ∈ List.range' k j, n ≤ g.slot l ∧ g.slot l ≤ n + b.horizon.toNat) ∧
      (0 < most → n < g.slot (k + j)) ∧
      g.slot (k + j) ≤ n + b.horizon.toNat + g.period := by
  induction most generalizing k with
  | zero => exact ⟨0, rfl, by simp, by simp, hnear⟩
  | succ most ih =>
    have hlead : ((g.reading k).since (.ofTime n)).toNat = g.slot k - n :=
      Counter.toNat_since_ofTime_of_le hahead (by omega)
    have hsucc := g.slot_succ k
    rw [handOut]
    by_cases hbeyond : b.horizon < (g.reading k).since (.ofTime n)
    · rw [if_pos hbeyond]
      rw [UInt32.lt_iff_toNat_lt, hlead] at hbeyond
      exact ⟨0, rfl, by simp, fun _ => by rw [Nat.add_zero]; omega, hnear⟩
    · rw [if_neg hbeyond]
      rw [UInt32.lt_iff_toNat_lt, hlead] at hbeyond
      have hnext : (g.reading k).after b.period = g.reading (k + 1) :=
        Grid.reading_after (by rw [hperiod, Nat.one_mul]) k
      obtain ⟨j, hrest, hwithin, -, hlast⟩ := @ih (k + 1) (by omega) (by omega)
      have hcount : k + 1 + j = k + (j + 1) := by omega
      rw [hcount] at hrest hlast
      refine ⟨j + 1, ?_, ?_, ?_, hlast⟩
      · simp only [hnext, hrest, List.range'_succ, List.map_cons]
      · intro l hl
        rw [List.range'_succ] at hl
        rcases List.mem_cons.mp hl with rfl | hl
        · omega
        · exact hwithin l hl
      · have hmono : g.slot (k + 1) ≤ g.slot (k + (j + 1)) := Grid.slot_mono (by omega)
        omega

/-! ## One call, and many -/

/-- A call goes on through the grid: it skips what has passed, hands out what lies within the
horizon, and leaves the first slot it did neither to. -/
theorem Awaits.due (h : b.Awaits g k m) (hmn : m ≤ n) (hgap : n ≤ m + (2 ^ 31 - 1)) :
    ∃ (c : PlannerCall) (count : Nat), c.now = n ∧ c.Proper g b.horizon.toNat ∧
      c.consumed = List.range' k count ∧
      (b.due (.ofTime n)).1 = c.handedOut.map g.reading ∧
      (b.due (.ofTime n)).2.horizon = b.horizon ∧
      (b.due (.ofTime n)).2.Awaits g (k + count) n := by
  obtain ⟨i, hskip, hskipped, hahead, hnear⟩ := h.skipMissed_eq hmn hgap
  obtain ⟨j, hout, hwithin, hlater, hfar⟩ :=
    handOut_eq h.period h.period_pos h.half_turn b.ahead.toNat hahead hnear
  have hperiod : b.period ≠ 0 := by
    rw [Ne, ← UInt32.toNat_inj, h.period]
    exact Nat.ne_of_gt h.period_pos
  have hdue : b.due (.ofTime n) = ((List.range' (k + i) j).map g.reading,
      { b with next := g.reading (k + (i + j)) }) := by
    rw [BeaconPlanner.due, if_neg hperiod, hskip, hout, Nat.add_assoc]
  rw [Nat.add_assoc] at hlater hfar
  refine ⟨⟨n, List.range' k i, List.range' (k + i) j⟩, i + j, rfl, ⟨hskipped, hwithin⟩, ?_, ?_⟩
  · exact List.range'_append_1
  · rw [hdue]
    exact ⟨rfl, rfl, h.period, h.period_pos, h.ahead, h.half_turn, rfl, hlater h.ahead, hfar⟩

/-- Calls at times that are at most half a turn apart go through the grid in order. The induction is
on the calls; each leaves a slot to the next. -/
theorem Awaits.run {ns : List Nat} (h : b.Awaits g k m)
    (hns : (m :: ns).IsChain fun a b => a ≤ b ∧ b ≤ a + (2 ^ 31 - 1)) :
    ∃ (calls : List PlannerCall) (count : Nat), calls.map (·.now) = ns ∧
      (∀ c ∈ calls, c.Proper g b.horizon.toNat) ∧
      calls.flatMap (·.consumed) = List.range' k count ∧
      (b.run ns).1 = calls.map (·.handedOut.map g.reading) ∧
      (b.run ns).2.next = g.reading (k + count) ∧ ∀ n ∈ m :: ns, n < g.slot (k + count) := by
  induction ns generalizing b k m with
  | nil =>
    refine ⟨[], 0, rfl, by simp, rfl, rfl, h.next, ?_⟩
    intro n hn
    obtain rfl := List.mem_singleton.mp hn
    exact h.later
  | cons n ns ih =>
    obtain ⟨⟨hmn, hgap⟩, hrest⟩ := List.isChain_cons_cons.mp hns
    obtain ⟨c, first, hnow, hproper, hconsumed, hanswer, hhorizon, hawaits⟩ := h.due hmn hgap
    obtain ⟨calls, count, hnows, hall, hothers, hanswers, hnext, hlater⟩ := ih hawaits hrest
    rw [hhorizon] at hall
    rw [Nat.add_assoc] at hnext hlater
    refine ⟨c :: calls, first + count, ?_, ?_, ?_, ?_, hnext, ?_⟩
    · rw [List.map_cons, hnow, hnows]
    · intro d hd
      rcases List.mem_cons.mp hd with rfl | hd
      · exact hproper
      · exact hall d hd
    · rw [List.flatMap_cons, hconsumed, hothers, List.range'_append_1]
    · rw [BeaconPlanner.run, List.map_cons, hanswer, hanswers]
    · intro l hl
      rcases List.mem_cons.mp hl with rfl | hl
      · exact Nat.lt_of_le_of_lt hmn (hlater n List.mem_cons_self)
      · exact hlater l hl

/-- A new planner awaits the first slot of its grid. -/
theorem awaits_new {start : Nat} {period : Span} {ahead : UInt32} (hperiod : period ≠ 0)
    (hhalf : (new (.ofTime start) period ahead).horizon.toNat + period.toNat ≤ 2 ^ 31 - 1) :
    (new (.ofTime start) period ahead).Awaits ⟨start, period.toNat⟩ 1 start := by
  have hpos : 0 < period.toNat :=
    Nat.pos_of_ne_zero fun hnone => hperiod (UInt32.toNat_inj.mp hnone)
  have hslot : Grid.slot ⟨start, period.toNat⟩ 1 = start + period.toNat := by
    rw [Grid.slot, Nat.one_mul]
  refine ⟨rfl, hpos, ?_, hhalf, ?_, by omega, ?_⟩
  · change 0 < (if ahead = 0 then 1 else ahead).toNat
    split
    · decide
    next hsome => exact Nat.pos_of_ne_zero fun hnone => hsome (UInt32.toNat_inj.mp hnone)
  · change (Counter.ofTime start).after period = .ofTime (Grid.slot ⟨start, period.toNat⟩ 1)
    rw [hslot, Counter.ofTime_after]
  · rw [hslot]
    change start + period.toNat ≤ start + _ + period.toNat
    omega

/-- The planner of a configuration that was checked looks no farther than half a turn, if it plans
at least one beacon ahead. -/
theorem half_turn_of_validate {c : QueueConfig} (h : c.validate = .ok ())
    (hahead : 1 ≤ c.beaconsInQueue) (start : Counter) :
    (new start c.beaconPeriod c.beaconsInQueue).horizon.toNat + c.beaconPeriod.toNat ≤
      2 ^ 31 - 1 := by
  have hadvance := (QueueConfig.validate_eq_ok_iff.mp h).2.2.1
  have hsize : UInt32.size = 2 ^ 32 := rfl
  rw [QueueConfig.maxAdvance, Span.toNat_clamp, hsize, Nat.add_mul, Nat.one_mul] at hadvance
  have hsome : c.beaconsInQueue ≠ 0 := by
    intro hnone
    rw [hnone] at hahead
    exact absurd hahead (by decide)
  change (Span.clamp (min (c.beaconPeriod.toNat *
    (if c.beaconsInQueue = 0 then 1 else c.beaconsInQueue).toNat) 1073741823)).toNat + _ ≤ _
  rw [if_neg hsome, Span.toNat_clamp, Nat.mul_comm c.beaconPeriod.toNat]
  omega

end BeaconPlanner

/-- **A planner goes through its slots in order.** Start a planner with a period that is not nothing
and such that its horizon and a period together stay below half a turn, as they do in a
configuration that was checked if it plans at least one beacon ahead. Ask it at times that never go
back and are less than half a turn apart, the first one no more than that after the start. Then each
call skips or hands out the slots that come next, and so all calls together go through the slots one
by one, from the first up to some last one. A slot is handed out by a call at which it lies between
now and the horizon, and skipped by one at which it has passed. The next slot of the planner is the
first that was neither handed out nor skipped, and it lies ahead of all calls. -/
theorem planner_consumes (start : Nat) (period : Span) (ahead : UInt32) (ns : List Nat) :
    let b := BeaconPlanner.new (.ofTime start) period ahead
    let g : Grid := ⟨start, period.toNat⟩
    (∀ c : QueueConfig, c.validate = .ok () → 1 ≤ c.beaconsInQueue → period = c.beaconPeriod →
      ahead = c.beaconsInQueue → b.horizon.toNat + period.toNat ≤ 2 ^ 31 - 1) ∧
    (period ≠ 0 → b.horizon.toNat + period.toNat ≤ 2 ^ 31 - 1 →
      ((start :: ns).IsChain fun m n => m ≤ n ∧ n ≤ m + (2 ^ 31 - 1)) →
      ∃ (calls : List PlannerCall) (count : Nat), calls.map (·.now) = ns ∧
        calls.flatMap (·.consumed) = List.range' 1 count ∧
        (b.run ns).1 = calls.map (·.handedOut.map g.reading) ∧
        (∀ c ∈ calls, (∀ k ∈ c.skipped, g.slot k < c.now) ∧
          ∀ k ∈ c.handedOut, c.now ≤ g.slot k ∧ g.slot k ≤ c.now + b.horizon.toNat) ∧
        (b.run ns).2.next = g.reading (count + 1) ∧ ∀ n ∈ start :: ns, n < g.slot (count + 1)) := by
  intro b g
  constructor
  · rintro c hvalid hone rfl rfl
    exact BeaconPlanner.half_turn_of_validate hvalid hone _
  · intro hperiod hhalf hns
    obtain ⟨calls, count, hnows, hproper, hconsumed, hanswers, hnext, hlater⟩ :=
      (BeaconPlanner.awaits_new hperiod hhalf).run hns
    rw [Nat.add_comm] at hnext hlater
    refine ⟨calls, count, hnows, hconsumed, hanswers, ?_, hnext, hlater⟩
    intro c hc
    exact ⟨(hproper c hc).skipped, (hproper c hc).handedOut⟩

/-- The planner of the default configuration, started a second before the counter passes zero, and
asked again ten minutes later. The fourth slot has passed by then. -/
theorem planner_consumes_missed :
    let b := BeaconPlanner.new (.ofTime 4294000000) 128000000 3
    let g : Grid := ⟨4294000000, (128000000 : Span).toNat⟩
    let ns := [4294000000, 4894000000]
    b.horizon.toNat + (128000000 : Span).toNat ≤ 2 ^ 31 - 1 ∧
      ((4294000000 :: ns).IsChain fun m n => m ≤ n ∧ n ≤ m + (2 ^ 31 - 1)) ∧
      (b.run ns).1 = [[1, 2, 3].map g.reading, [5, 6, 7].map g.reading] ∧
      ∃ (calls : List PlannerCall) (count : Nat), calls.map (·.now) = ns ∧
        calls.flatMap (·.consumed) = List.range' 1 count ∧
        (b.run ns).1 = calls.map (·.handedOut.map g.reading) ∧
        (∀ c ∈ calls, (∀ k ∈ c.skipped, g.slot k < c.now) ∧
          ∀ k ∈ c.handedOut, c.now ≤ g.slot k ∧ g.slot k ≤ c.now + b.horizon.toNat) ∧
        (b.run ns).2.next = g.reading (count + 1) ∧
          ∀ n ∈ 4294000000 :: ns, n < g.slot (count + 1) := by
  intro b g ns
  have hchain : (4294000000 :: ns).IsChain fun m n => m ≤ n ∧ n ≤ m + (2 ^ 31 - 1) := by
    simp [ns]
  have hanswers : (b.run ns).1 = [[1, 2, 3].map g.reading, [5, 6, 7].map g.reading] := by
    decide +kernel
  -- what follows holds of any calls, so the run need not be evaluated again
  clear_value ns
  obtain ⟨hconfig, hrun⟩ := planner_consumes 4294000000 128000000 3 ns
  have hhalf := hconfig {} rfl (by decide) rfl rfl
  exact ⟨hhalf, hchain, hanswers, hrun (by decide) hhalf hchain⟩

end Downlink
