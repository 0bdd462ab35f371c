import Downlink.Proofs.Station.Handover
import Downlink.Proofs.Station.Reachable

/-!
# How many downlinks are due at a time

A downlink takes the radio at least a look-ahead before its target, and one that is due has less
than that left. So of two that are due at once, the earlier one would still be on the radio when the
later one takes it, unless the later one is a beacon and gives its guard up to the earlier one
(`Scheduler.Apart.near`). Only one of any two is a beacon then, and there is no third.

Ticks at one reading hand on what is due in the order of the targets, so they report two downlinks
at most before they rest.
-/

namespace Downlink

namespace Scheduler

variable {s : Scheduler} {now : Counter} {e f : Entry}

/-! ## Two that are due -/

/-- Less than the look-ahead is left for an entry. -/
def IsNear (s : Scheduler) (now : Counter) (e : Entry) : Prop := e.lead now < s.policy.jitDelay

instance (s : Scheduler) (now : Counter) : DecidablePred (s.IsNear now) :=
  fun _ => inferInstanceAs (Decidable (_ < _))

/-- The entries that are due, or would be if they were not stale. -/
def near (s : Scheduler) (now : Counter) (es : List Entry) : List Entry :=
  es.filter fun e => decide (s.IsNear now e)

/-- Entries that are apart, each of which takes the radio a look-ahead before its target at the
latest. -/
structure Spaced (s : Scheduler) (es : List Entry) : Prop where
  /-- no two overlap -/
  apart : es.Pairwise s.Apart
  /-- and each takes the radio before it can be due -/
  jitDelay_le : ∀ e ∈ es, s.policy.jitDelay ≤ e.preDelay

/-- Entries that are left are spaced if all were. -/
theorem Spaced.of_lost {gone left all : List Entry} (h : s.Spaced all)
    (hall : (gone ++ left).Perm all) : s.Spaced left := by
  refine ⟨pairwise_apart_of_lost hall h.apart, ?_⟩
  intro e he
  exact h.jitDelay_le e (hall.mem_iff.mp (List.mem_append_right gone he))

/-- Of two entries that are apart, the later one is a beacon if both are near, and it gives its
guard up to the other. -/
theorem Apart.near (h : s.Apart f e) (hjit : s.policy.jitDelay ≤ f.preDelay)
    (hf : s.IsNear now f) (hle : e.lead now ≤ f.lead now) :
    f.trafficClass = .beacon ∧ e.trafficClass.mayApproachBeacon = true := by
  by_contra hguard
  have hgap := h.gap hguard
  have hbetween : (f.target.since e.target).toNat = (f.lead now).toNat - (e.lead now).toNat :=
    Counter.toNat_since_of_le (UInt32.le_iff_toNat_le.mp hle)
  have hpre := UInt32.le_iff_toNat_le.mp hjit
  have hlate := UInt32.lt_iff_toNat_lt.mp hf
  omega

/-- Entries that are apart do not come at the same time. -/
theorem Apart.lead_ne (h : s.Apart e f) : e.lead now ≠ f.lead now :=
  fun hlead => h.target_ne (Counter.since_inj.mp hlead)

/-- An entry that is apart from another and comes no later comes earlier. -/
theorem Apart.lead_lt (h : s.Apart e f) (hle : e.lead now ≤ f.lead now) :
    e.lead now < f.lead now :=
  UInt32.lt_of_le_of_ne hle h.lead_ne

/-- Two near entries are an earlier one that may come into a beacon's guard, and a beacon. -/
theorem Apart.near_cases (h : s.Apart e f) (hjite : s.policy.jitDelay ≤ e.preDelay)
    (hjitf : s.policy.jitDelay ≤ f.preDelay) (he : s.IsNear now e) (hf : s.IsNear now f) :
    (e.lead now < f.lead now ∧ e.trafficClass.mayApproachBeacon = true ∧
        f.trafficClass = .beacon) ∨
      f.lead now < e.lead now ∧ f.trafficClass.mayApproachBeacon = true ∧
        e.trafficClass = .beacon := by
  rcases UInt32.le_total (e.lead now) (f.lead now) with hle | hle
  · obtain ⟨hbeacon, hmay⟩ := h.symm.near hjitf hf hle
    exact .inl ⟨h.lead_lt hle, hmay, hbeacon⟩
  · obtain ⟨hbeacon, hmay⟩ := h.near hjite he hle
    exact .inr ⟨h.symm.lead_lt hle, hmay, hbeacon⟩

/-- Just one of two near entries is a beacon. -/
theorem Apart.isBeacon_ne (h : s.Apart e f) (hjite : s.policy.jitDelay ≤ e.preDelay)
    (hjitf : s.policy.jitDelay ≤ f.preDelay) (he : s.IsNear now e) (hf : s.IsNear now f) :
    e.trafficClass.isBeacon ≠ f.trafficClass.isBeacon := by
  rcases h.near_cases hjite hjitf he hf with ⟨-, hmay, hbeacon⟩ | ⟨-, hmay, hbeacon⟩
  all_goals
    rcases TrafficClass.mayApproachBeacon_iff.mp hmay with hclass | hclass <;>
      rw [hclass, hbeacon] <;> decide

/-- One entry is near at most, or two are, a beacon and an earlier one that may come into its
guard. -/
theorem Spaced.near_cases {es : List Entry} (h : s.Spaced es) (now : Counter) :
    (s.near now es).length ≤ 1 ∨
      ∃ e f, (s.near now es).Perm [e, f] ∧ e.lead now < f.lead now ∧
        e.trafficClass.mayApproachBeacon = true ∧ f.trafficClass = .beacon := by
  have hsub : (s.near now es).Sublist es := List.filter_sublist
  have hapart : (s.near now es).Pairwise s.Apart := h.apart.sublist hsub
  have hjit : ∀ e ∈ s.near now es, s.policy.jitDelay ≤ e.preDelay :=
    fun e he => h.jitDelay_le e (hsub.mem he)
  have hnear : ∀ e ∈ s.near now es, s.IsNear now e :=
    fun e he => of_decide_eq_true (List.mem_filter.mp he).2
  match hdue : s.near now es with
  | [] => exact .inl (Nat.zero_le 1)
  | [_] => exact .inl (Nat.le_refl 1)
  | [a, b] =>
    rw [hdue] at hapart hjit hnear
    have hab := List.pairwise_pair.mp hapart
    rcases hab.near_cases (hjit a (by simp)) (hjit b (by simp)) (hnear a (by simp))
      (hnear b (by simp)) with hcase | hcase
    · exact .inr ⟨a, b, .refl _, hcase⟩
    · exact .inr ⟨b, a, .swap .., hcase⟩
  | a :: b :: c :: rest =>
    rw [hdue] at hapart hjit hnear
    simp only [List.pairwise_cons, List.mem_cons, forall_eq_or_imp] at hapart hjit hnear
    obtain ⟨⟨hab, hac, -⟩, ⟨hbc, -⟩, -⟩ := hapart
    obtain ⟨hja, hjb, hjc, -⟩ := hjit
    obtain ⟨hna, hnb, hnc, -⟩ := hnear
    -- of three, two are beacons or two are not
    have hthree : ∀ x y z : Bool, x ≠ y → x ≠ z → y ≠ z → False := by decide
    exact (hthree _ _ _ (hab.isBeacon_ne hja hjb hna hnb) (hac.isBeacon_ne hja hjc hna hnc)
      (hbc.isBeacon_ne hjb hjc hnb hnc)).elim

/-- So two are near at most. -/
theorem Spaced.length_near_le {es : List Entry} (h : s.Spaced es) (now : Counter) :
    (s.near now es).length ≤ 2 := by
  rcases h.near_cases now with hone | ⟨e, f, htwo, -⟩
  · omega
  · exact htwo.length_eq.le

theorem Admitted.jitDelay_le {q : Queue} {p : Packet} {c : TrafficClass}
    (h : s.Admitted q now p c e) : s.policy.jitDelay ≤ e.preDelay := by
  rw [h.preDelay]
  exact s.policy.jitDelay_le_preDelay c

end Scheduler

/-! ## Ticks at one reading -/

/-- What a tick reported, if the observation is of one. -/
def Observation.report? {ρ : Type} (o : Observation ρ) : Option (Option Event) :=
  match o.reply with
  | .ticked event => some event
  | _ => none

namespace Station

variable {ρ : Type} {s : Scheduler} {st st' : Station ρ} {now : Counter} {e : Entry}

/-- A tick that finds nothing due leaves nothing near. -/
theorem Rests.near_eq_nil (h : st.Rests s now st') :
    s.near now st'.queue.entries = [] := by
  refine List.filter_eq_nil_iff.mpr fun e he hnear => ?_
  exact UInt32.not_lt.mpr (h.early e he) (of_decide_eq_true hnear)

variable [Radio ρ]

/-- What the ticks of a run report. -/
def reports (s : Scheduler) (st : Station ρ) (as : List (Action ρ)) : List (Option Event) :=
  (st.trace s as).filterMap Observation.report?

/-- The entries of a reachable station are spaced. -/
theorem Reachable.spaced (h : st.Reachable s) : s.Spaced st.queue.entries :=
  ⟨h.apart, h.forall_entries Scheduler.Admitted.jitDelay_le⟩

/-- A tick that hands an entry on has one that is near less. -/
theorem HandsOn.near_subperm (h : st.HandsOn s now e st') :
    (e :: s.near now st'.queue.entries).Subperm (s.near now st.queue.entries) := by
  have hnear : decide (s.IsNear now e) = true := decide_eq_true h.due
  have hcons : s.near now (e :: st'.queue.entries) = e :: s.near now st'.queue.entries :=
    List.filter_cons_of_pos hnear
  have hkept : (e :: st'.queue.entries).Subperm st.queue.entries :=
    (List.sublist_append_right ..).subperm.trans h.perm.subperm
  rw [← hcons]
  exact hkept.filter _

/-- The entry that is handed on comes before all that stay. -/
theorem HandsOn.lead_lt (h : st.HandsOn s now e st')
    (hspaced : s.Spaced st.queue.entries) :
    ∀ x ∈ st'.queue.entries, e.lead now < x.lead now := by
  intro x hx
  have hapart := List.pairwise_cons.mp (hspaced.of_lost h.perm).apart
  exact (hapart.1 x hx).lead_lt (h.first x hx)

/-- Nothing but ticks at `now` and changes of the radio. -/
def OnlyTicks (now : Counter) (as : List (Action ρ)) : Prop :=
  ∀ a ∈ as, a = .tick now ∨ ∃ r, a = .radio r

/-- Ticks at one reading report some of the near entries, in the order of their targets, and nothing
after that. The induction is on the actions; what a tick leaves is spaced again, and if the tick
finds nothing due, nothing is near any more. -/
theorem reports_of_onlyTicks {as : List (Action ρ)} (hticks : OnlyTicks now as)
    (h : s.Spaced st.queue.entries) :
    ∃ (sent : List Entry) (events : List Event) (idle : Nat),
      st.reports s as = events.map some ++ List.replicate idle none ∧
      events.map (·.target) = sent.map (·.target) ∧
      sent.Subperm (s.near now st.queue.entries) ∧
      sent.Pairwise fun e f => e.lead now < f.lead now := by
  induction as generalizing st with
  | nil => exact ⟨[], [], 0, rfl, rfl, List.nil_subperm, .nil⟩
  | cons a as ih =>
    have hrest : OnlyTicks now as := fun b hb => hticks b (List.mem_cons_of_mem a hb)
    rcases hticks a List.mem_cons_self with rfl | ⟨r, rfl⟩
    · have hreports : st.reports s (.tick now :: as) =
          (st.tick s now).event :: (st.tick s now).station.reports s as := rfl
      rcases st.tick_cases s now with ⟨hevent, hrests⟩ | ⟨e, hevent, hhands⟩
      · obtain ⟨sent, events, idle, hrep, hmap, hsub, -⟩ := ih hrest (h.of_lost hrests.perm)
        -- nothing is near, so no event follows
        rw [hrests.near_eq_nil, List.subperm_nil] at hsub
        rw [hsub, List.map_nil, List.map_eq_nil_iff] at hmap
        rw [hreports, hevent, hrep, hmap]
        exact ⟨[], [], idle + 1, rfl, rfl, List.nil_subperm, .nil⟩
      · have hleft : s.Spaced (st.tick s now).station.queue.entries :=
          (h.of_lost hhands.perm).of_lost (List.Perm.refl ([e] ++ _))
        obtain ⟨sent, events, idle, hrep, hmap, hsub, hsorted⟩ := ih hrest hleft
        rw [hreports, hevent, hrep]
        refine ⟨e :: sent, _ :: events, idle, rfl, congrArg (e.target :: ·) hmap, ?_, ?_⟩
        · exact ((List.subperm_cons e).mpr hsub).trans hhands.near_subperm
        · refine List.pairwise_cons.mpr ⟨?_, hsorted⟩
          intro x hx
          exact hhands.lead_lt h x (List.mem_of_mem_filter (hsub.subset hx))
    · have hreports : st.reports s (.radio r :: as) =
          Station.reports s { st with radio := r } as := rfl
      rw [hreports]
      exact ih hrest h

end Station

/-- **At most two downlinks are due together.** At any reading of the counter less than the
look-ahead is left for one entry of a reachable station at most, or for two: an earlier one of class
A or C, and a beacon. So ticks at one reading with nothing in between, whatever the radio does
meanwhile, report two downlinks at most, the one that comes first first, before they rest. -/
theorem reachable_due (config : QueueConfig) (airtime : AirtimeModel) {ρ : Type} [Radio ρ]
    {st : Station ρ} (h : st.Reachable (.ofConfig config airtime)) (now : Counter) :
    let due := st.queue.entries.filter fun e => e.lead now < config.jitDelay
    (due.length ≤ 1 ∨ ∃ e f, due.Perm [e, f] ∧ e.lead now < f.lead now ∧
      (e.trafficClass = .classA ∨ e.trafficClass = .classC) ∧ f.trafficClass = .beacon) ∧
    ∀ as : List (Action ρ), Station.OnlyTicks now as →
      ∃ (events : List Event) (idle : Nat),
        st.reports (.ofConfig config airtime) as =
          events.map some ++ List.replicate idle none ∧
        events.length ≤ 2 ∧
        events.Pairwise fun a b => a.target.since now < b.target.since now := by
  intro due
  have hspaced := h.spaced
  refine ⟨?_, ?_⟩
  · rcases hspaced.near_cases now with hone | ⟨e, f, htwo, hlt, hmay, hbeacon⟩
    · exact .inl hone
    · exact .inr ⟨e, f, htwo, hlt, TrafficClass.mayApproachBeacon_iff.mp hmay, hbeacon⟩
  · intro as hticks
    obtain ⟨sent, events, idle, hreports, hmap, hsub, hsorted⟩ :=
      Station.reports_of_onlyTicks hticks hspaced
    refine ⟨events, idle, hreports, ?_, ?_⟩
    · have hlength := congrArg List.length hmap
      rw [List.length_map, List.length_map] at hlength
      rw [hlength]
      exact hsub.length_le.trans (hspaced.length_near_le now)
    · have hleads : (sent.map (·.target)).Pairwise fun t u => t.since now < u.since now :=
        List.pairwise_map.mpr hsorted
      rw [← hmap, List.pairwise_map] at hleads
      exact hleads

/-- A class A reply that went into the guard of a queued beacon. At 70000 both are due, and three
ticks hand both on. -/
theorem reachable_due_guard :
    let s := Scheduler.ofConfig {} (.fixed 1000)
    let beacon := Packet.timestamped 0 [0] ⟨103600⟩ 869525000 (.loraBeacon 9 .khz125)
    let reply := Packet.timestamped 1 [0x60] ⟨100000⟩ 869525000 (.loraDownlink 9 .khz125)
    let radio : SimulatedRadio := { clock := ⟨70000⟩, airtime := .fixed 1000 }
    let st := Station.run s { radio } [.ask (.enqueue ⟨0⟩ beacon .beacon),
      .ask (.enqueue ⟨0⟩ reply .classA)]
    let due := st.queue.entries.filter fun e => e.lead ⟨70000⟩ < QueueConfig.jitDelay {}
    st.Reachable s ∧
    (∃ e f, due.Perm [e, f] ∧ e.lead ⟨70000⟩ < f.lead ⟨70000⟩ ∧
      (e.trafficClass = .classA ∨ e.trafficClass = .classC) ∧ f.trafficClass = .beacon) ∧
    (st.reports s [.tick ⟨70000⟩, .tick ⟨70000⟩, .tick ⟨70000⟩]).map (Option.map (·.id)) =
      [some 1, some 0, none] := by
  intro s beacon reply radio st due
  have hreach : st.Reachable s := (Station.Reachable.fresh radio).run _
  have htwo : ¬due.length ≤ 1 := by decide +kernel
  refine ⟨hreach, ?_, by decide +kernel⟩
  exact (reachable_due {} (.fixed 1000) hreach ⟨70000⟩).1.resolve_left htwo

end Downlink
