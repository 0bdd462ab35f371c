import Downlink.Proofs.Clock.Distance
import Downlink.Proofs.Queue.CollisionFree
import Downlink.Proofs.Queue.Outcome

/-!
# The slot of an immediate downlink

An immediate downlink goes into the first slot that the search finds. The search walks through the
entries in queue order and compares the slot behind each with the next entry only. That is enough
when the entries are **spread** out ahead of now (`Scheduler.Spread`): in order, apart, with the
delays of their classes, and all of them within a stretch that leaves room on the circle for two
windows more. What comes before the entry that lends its slot has ended by then, and what comes
after the next entry comes after that entry's own window. All this asks of the order is that the
entry compared with be the next one in time (`Scheduler.slotAfter_clear_of_next`).

A slot could also lie behind the next entry without touching it. This takes an entry that is over
sooner than the look-ahead after its window began, and there is none, since a data window begins a
look-ahead before its target and a beacon's ends no sooner after it.
-/

namespace Downlink

namespace Scheduler

variable {s : Scheduler} {q : Queue} {now : Counter} {e x : Entry} {w : Window} {c : TrafficClass}

/-! ## The delays of an entry -/

/-- The entry takes the radio for as long as a downlink of its class does. -/
structure Sized (s : Scheduler) (e : Entry) : Prop where
  /-- before its target -/
  preDelay : e.preDelay = s.policy.preDelay e.trafficClass
  /-- and after it -/
  postDelay : ∃ p, e.postDelay = s.policy.postDelay e.trafficClass (s.airtime p)

theorem Admitted.sized {p : Packet} (h : s.Admitted q now p c e) : s.Sized e := by
  have hpost := h.postDelay
  rw [timeOnAir_of_entryRefusal? h.entry] at hpost
  constructor
  · rw [h.trafficClass]
    exact h.preDelay
  · rw [h.trafficClass]
    exact ⟨p, hpost⟩

theorem sized_of_reachable (h : Reachable s q) : ∀ e ∈ q.entries, s.Sized e := by
  refine h.entries_induction (P := fun es => ∀ e ∈ es, s.Sized e) ?nil ?lose ?gain
  case nil =>
    intro e he
    cases he
  case lose =>
    intro gone left all hall h e he
    exact h e (hall.mem_iff.mp (List.mem_append_right gone he))
  case gain =>
    intro q now p c e all hadmitted h hall x hx
    rcases List.mem_cons.mp (hall.mem_iff.mp hx) with rfl | hx
    · exact hadmitted.sized
    · exact h x hx

/-- Every class meets an entry early enough to start its frame. -/
theorem Sized.startDelay_le_reach (h : s.Sized e) (c : TrafficClass) :
    s.policy.startDelay ≤ s.reach e c := by
  by_cases hguard : e.trafficClass = .beacon ∧ c.mayApproachBeacon = true
  · rw [reach_eq_startDelay hguard.1 hguard.2]
    exact UInt32.le_refl _
  · rw [reach_eq_preDelay hguard, h.preDelay]
    exact s.policy.startDelay_le_preDelay _

/-- No class meets an entry later than class C does. -/
theorem Sized.reach_classC_le (h : s.Sized e) (c : TrafficClass) :
    s.reach e .classC ≤ s.reach e c := by
  by_cases hbeacon : e.trafficClass = .beacon
  · rw [reach_eq_startDelay hbeacon rfl]
    exact h.startDelay_le_reach c
  · rw [reach_eq_preDelay fun hguard => hbeacon hguard.1,
      reach_eq_preDelay fun hguard => hbeacon hguard.1]
    exact UInt32.le_refl _

/-- Class C does not meet an entry sooner than its own. -/
theorem Sized.reach_classC_le_preDelay (h : s.Sized e) :
    s.reach e .classC ≤ s.policy.preDelay .classC := by
  by_cases hbeacon : e.trafficClass = .beacon
  · rw [reach_eq_startDelay hbeacon rfl]
    exact s.policy.startDelay_le_preDelay _
  · rw [reach_eq_preDelay fun hguard => hbeacon hguard.1, h.preDelay]
    cases hclass : e.trafficClass with
    | beacon => exact absurd hclass hbeacon
    | _ => exact UInt32.le_refl _

/-- Every entry takes the radio for the look-ahead at least, data before its target and a beacon
after it. -/
theorem Sized.jitDelay_le (h : s.Sized e) (hreserved : s.policy.jitDelay ≤ s.policy.beaconReserved)
    (c : TrafficClass) :
    s.policy.jitDelay.toNat ≤ (s.reach e c).toNat + e.postDelay.toNat := by
  by_cases hbeacon : e.trafficClass = .beacon
  · obtain ⟨p, hpost⟩ := h.postDelay
    rw [hbeacon] at hpost
    have hlong : s.policy.jitDelay.toNat ≤ e.postDelay.toNat := by
      rw [hpost]
      exact UInt32.le_iff_toNat_le.mp hreserved
    omega
  · have hlong : s.policy.jitDelay ≤ s.reach e c := by
      rw [reach_eq_preDelay fun hguard => hbeacon hguard.1, h.preDelay]
      exact s.policy.jitDelay_le_preDelay _
    have hjit := UInt32.le_iff_toNat_le.mp hlong
    omega

/-! ## Windows as distances -/

/-- A window clears an entry if going round from either target to the other there is time for what
lies between, and the margin. -/
theorem overlaps_eq_false : s.overlaps e w c = false ↔
    w.pre.toNat + e.postDelay.toNat + s.policy.margin.toNat < (w.time.since e.target).toNat ∧
      (s.reach e c).toNat + w.post.toNat + s.policy.margin.toNat <
        (e.target.since w.time).toNat := by
  rw [overlaps, Policy.collides, Bool.or_eq_false_iff, decide_eq_false_iff_not,
    decide_eq_false_iff_not, Nat.not_le, Nat.not_le, Policy.effective_time, Policy.effective_post]
  exact Iff.rfl

/-- A window clears an entry that is over before it begins, if the window ends less than a turn
after the entry begins. -/
theorem overlaps_of_behind (now : Counter)
    (hbehind : (e.lead now).toNat + e.postDelay.toNat + w.pre.toNat + s.policy.margin.toNat <
      (w.time.since now).toNat)
    (hturn : (w.time.since now).toNat + w.post.toNat + (s.reach e c).toNat +
      s.policy.margin.toNat < 2 ^ 32 + (e.lead now).toNat) :
    s.overlaps e w c = false := by
  have hlt : (e.target.since now).toNat < (w.time.since now).toNat := by
    change (e.lead now).toNat < _
    omega
  have hforth : (w.time.since e.target).toNat = _ := Counter.toNat_since_of_le (Nat.le_of_lt hlt)
  have hback : (e.target.since w.time).toNat = _ := Counter.toNat_since_of_lt hlt
  change _ = _ - (e.lead now).toNat at hforth
  change _ = (e.lead now).toNat + _ - _ at hback
  rw [overlaps_eq_false, hforth, hback]
  omega

/-- It clears an entry that begins after it is over, if the entry ends less than a turn after the
window begins. -/
theorem overlaps_of_ahead (now : Counter)
    (hahead : (w.time.since now).toNat + w.post.toNat + (s.reach e c).toNat +
      s.policy.margin.toNat < (e.lead now).toNat)
    (hturn : (e.lead now).toNat + e.postDelay.toNat + w.pre.toNat + s.policy.margin.toNat <
      2 ^ 32 + (w.time.since now).toNat) :
    s.overlaps e w c = false := by
  have hlt : (w.time.since now).toNat < (e.target.since now).toNat := by
    change _ < (e.lead now).toNat
    omega
  have hforth : (e.target.since w.time).toNat = _ := Counter.toNat_since_of_le (Nat.le_of_lt hlt)
  have hback : (w.time.since e.target).toNat = _ := Counter.toNat_since_of_lt hlt
  change _ = (e.lead now).toNat - _ at hforth
  change _ = _ + 2 ^ 32 - (e.lead now).toNat at hback
  rw [overlaps_eq_false, hforth, hback]
  omega

/-- Of two entries that are apart, the later one begins after the earlier one is over. -/
theorem Apart.begins_after (h : s.Apart e x) (hlead : e.lead now < x.lead now) :
    (e.lead now).toNat + e.postDelay.toNat + (s.reach x e.trafficClass).toNat +
      s.policy.margin.toNat < (x.lead now).toNat := by
  have hlt := UInt32.lt_iff_toNat_lt.mp hlead
  have hgap := h.symm.reach_lt
  have hbetween : (x.target.since e.target).toNat = (x.lead now).toNat - (e.lead now).toNat :=
    Counter.toNat_since_of_le (Nat.le_of_lt hlt)
  omega

/-! ## Entries that are spread out -/

/-- The entries lie ahead of now in order and apart, none of them farther than `far`, and none takes
the radio for longer than `long` after its target. -/
structure Spread (s : Scheduler) (now : Counter) (far long : Nat) (es : List Entry) : Prop where
  /-- they come later and later -/
  ascending : es.Pairwise fun a b => a.lead now < b.lead now
  /-- no two of them overlap -/
  apart : es.Pairwise s.Apart
  /-- each has the delays of its class -/
  sized : ∀ e ∈ es, s.Sized e
  /-- none is farther away -/
  lead_le : ∀ e ∈ es, (e.lead now).toNat ≤ far
  /-- none takes longer -/
  postDelay_le : ∀ e ∈ es, e.postDelay.toNat ≤ long

end Scheduler

/-- The constants leave the search room: the look-ahead is longer than what programming the radio
takes, a beacon's time is no shorter than the look-ahead, and two windows more fit on the circle. -/
structure Policy.Roomy (p : Policy) (far long : Nat) : Prop where
  /-- the look-ahead covers the start of a frame and the margin -/
  lookahead : p.startDelay.toNat + p.margin.toNat < p.jitDelay.toNat
  /-- a beacon is not over before a look-ahead has passed -/
  reserved : p.jitDelay ≤ p.beaconReserved
  /-- a stretch of `far` and two windows stay within a turn -/
  turn : far + 2 * long + 2 * (p.preDelay .classC).toNat + 2 * p.jitDelay.toNat +
    2 * p.margin.toNat < 2 ^ 32

namespace Scheduler

section Search

variable {s : Scheduler} {q : Queue} {now : Counter} {far long : Nat} {post : Span}
  {pre : Span} {c : TrafficClass}

/-- How far ahead the slot behind an entry lies. -/
theorem lead_slotAfter {e : Entry} (h : (e.lead now).toNat + e.postDelay.toNat + pre.toNat +
    s.policy.jitDelay.toNat + s.policy.margin.toNat < 2 ^ 32) :
    ((s.policy.slotAfter e.window pre).since now).toNat =
      (e.lead now).toNat + e.postDelay.toNat + pre.toNat + s.policy.jitDelay.toNat +
        s.policy.margin.toNat := by
  have hoffset : (((e.postDelay.plus pre).plus s.policy.jitDelay).plus s.policy.margin).toNat =
      e.postDelay.toNat + pre.toNat + s.policy.jitDelay.toNat + s.policy.margin.toNat := by
    simp only [Span.toNat_plus]
    omega
  have hfits : (e.target.since now).toNat + (((e.postDelay.plus pre).plus s.policy.jitDelay).plus
      s.policy.margin).toNat < 2 ^ 32 := by
    change (e.lead now).toNat + _ < _
    omega
  rw [Policy.slotAfter, Entry.window, Counter.toNat_after_since hfits, hoffset]
  change (e.lead now).toNat + _ = _
  omega

/-- The slot behind an entry, if it does not overlap the next one, lies before that. It cannot lie
behind it, because the next entry is not over so soon. -/
theorem slotAfter_before_next {e next : Entry} (hlead : e.lead now < next.lead now)
    (hapart : s.Apart e next) (hsized : s.Sized next)
    (hreserved : s.policy.jitDelay ≤ s.policy.beaconReserved)
    (hslot : ((s.policy.slotAfter e.window pre).since now).toNat =
      (e.lead now).toNat + e.postDelay.toNat + pre.toNat + s.policy.jitDelay.toNat +
        s.policy.margin.toNat)
    (hclear : s.overlaps next ⟨s.policy.slotAfter e.window pre, pre, post⟩ c = false) :
    ((s.policy.slotAfter e.window pre).since now).toNat + post.toNat + (s.reach next c).toNat +
      s.policy.margin.toNat < (next.lead now).toNat := by
  obtain ⟨hforth, hback⟩ := overlaps_eq_false.mp hclear
  have hgap := hapart.begins_after hlead
  have hjit := hsized.jitDelay_le hreserved e.trafficClass
  rcases Nat.lt_or_ge ((s.policy.slotAfter e.window pre).since now).toNat (next.lead now).toNat
    with hbefore | hbehind
  · have hbetween : (next.target.since (s.policy.slotAfter e.window pre)).toNat =
        (next.lead now).toNat - _ := Counter.toNat_since_of_le (Nat.le_of_lt hbefore)
    rw [hbetween] at hback
    change (s.reach next c).toNat + post.toNat + _ < _ at hback
    omega
  · have hbetween : ((s.policy.slotAfter e.window pre).since next.target).toNat =
        _ - (next.lead now).toNat := Counter.toNat_since_of_le hbehind
    rw [hbetween] at hforth
    change pre.toNat + next.postDelay.toNat + _ < _ at hforth
    omega

/-- The slot behind an entry overlaps none of those that are queued with it, whatever their order is,
if the next one in time does not overlap it and the windows stay within a turn: what begins before
the entry is over when it begins, and what begins after the next one begins when that is over. -/
theorem slotAfter_clear_of_next {es : List Entry} {e : Entry} (he : e ∈ es)
    (hapart : es.Pairwise s.Apart) (hsized : ∀ x ∈ es, s.Sized x)
    (hjit : 0 < s.policy.jitDelay.toNat) (hreserved : s.policy.jitDelay ≤ s.policy.beaconReserved)
    (hpre : pre = s.policy.preDelay .classC)
    (hslot : ((s.policy.slotAfter e.window pre).since now).toNat =
      (e.lead now).toNat + e.postDelay.toNat + pre.toNat + s.policy.jitDelay.toNat +
        s.policy.margin.toNat)
    (hbehind : ∀ x ∈ es, ((s.policy.slotAfter e.window pre).since now).toNat + post.toNat +
      pre.toNat + s.policy.margin.toNat < 2 ^ 32 + (x.lead now).toNat)
    (hahead : ∀ x ∈ es, (x.lead now).toNat + x.postDelay.toNat + pre.toNat +
      s.policy.margin.toNat < 2 ^ 32 + ((s.policy.slotAfter e.window pre).since now).toNat)
    (hnext : ∀ x ∈ es, e.lead now < x.lead now →
      ∃ next ∈ es, e.lead now < next.lead now ∧ next.lead now ≤ x.lead now ∧
        s.overlaps next ⟨s.policy.slotAfter e.window pre, pre, post⟩ .classC = false) :
    ∀ x ∈ es, s.overlaps x ⟨s.policy.slotAfter e.window pre, pre, post⟩ .classC = false := by
  intro x hx
  have hxbehind := hbehind x hx
  have hxahead := hahead x hx
  have hxreach := UInt32.le_iff_toNat_le.mp (hsized x hx).reach_classC_le_preDelay
  rw [← hpre] at hxreach
  by_cases hxe : x = e
  · subst hxe
    apply overlaps_of_behind now <;> simp only <;> omega
  have hbetween : s.Apart x e := apart_of_mem hapart hx he hxe
  have hne : x.lead now ≠ e.lead now := fun heq => hbetween.target_ne (Counter.since_inj.mp heq)
  rcases UInt32.lt_or_lt_of_ne hne with hbefore | hafter
  · -- it was over when `e` began
    have hgap := hbetween.begins_after hbefore
    apply overlaps_of_behind now <;> simp only <;> omega
  obtain ⟨next, hmem, hlater, hle, hclear⟩ := hnext x hx hafter
  by_cases hxnext : next = x
  · rwa [← hxnext]
  · -- it begins after `next` is over, which lies behind the slot
    have hnextx : s.Apart next x := apart_of_mem hapart hmem hx hxnext
    have hlt : next.lead now < x.lead now :=
      UInt32.lt_of_le_of_ne hle fun heq => hnextx.target_ne (Counter.since_inj.mp heq)
    have henext : s.Apart e next :=
      apart_of_mem hapart he hmem fun heq => UInt32.lt_irrefl _ (heq ▸ hlater)
    have hbefore := slotAfter_before_next hlater henext (hsized next hmem) hreserved hslot hclear
    have hgap := hnextx.begins_after hlt
    have hreach := UInt32.le_iff_toNat_le.mp ((hsized x hx).reach_classC_le next.trafficClass)
    apply overlaps_of_ahead now <;> simp only <;> omega

/-- In an ascending list, what comes after an element comes no sooner than the next one. -/
theorem exists_next_le {key : Entry → Span} {before after : List Entry} {e x : Entry}
    (h : (before ++ e :: after).Pairwise fun a b => key a < key b)
    (hx : x ∈ before ++ e :: after) (hlater : key e < key x) :
    ∃ next ∈ after.head?, key e < key next ∧ key next ≤ key x := by
  obtain ⟨-, hrest, hbefore⟩ := List.pairwise_append.mp h
  obtain ⟨hbehind, hafter⟩ := List.pairwise_cons.mp hrest
  rcases List.mem_append.mp hx with hxbefore | hxrest
  · exact absurd (hbefore x hxbefore e List.mem_cons_self) (UInt32.lt_asymm hlater)
  rcases List.mem_cons.mp hxrest with rfl | hxafter
  · exact absurd hlater (UInt32.lt_irrefl _)
  · cases after with
    | nil => cases hxafter
    | cons next rest =>
      refine ⟨next, rfl, hbehind next List.mem_cons_self, ?_⟩
      rcases List.mem_cons.mp hxafter with rfl | hxrest
      · exact UInt32.le_refl _
      · exact UInt32.le_of_lt ((List.pairwise_cons.mp hafter).1 x hxrest)

/-- The slot behind an entry overlaps none that is spread out with it if it does not overlap the
next one. -/
theorem Spread.slotAfter_clear {before after : List Entry} {e : Entry}
    (h : s.Spread now far long (before ++ e :: after)) (hroomy : s.policy.Roomy far long)
    (hpre : pre = s.policy.preDelay .classC) (hpost : post.toNat ≤ long)
    (hnext : ∀ next ∈ after.head?,
      s.overlaps next ⟨s.policy.slotAfter e.window pre, pre, post⟩ .classC = false) :
    ∀ x ∈ before ++ e :: after,
      s.overlaps x ⟨s.policy.slotAfter e.window pre, pre, post⟩ .classC = false := by
  obtain ⟨hlookahead, hreserved, hturn⟩ := hroomy
  rw [← hpre] at hturn
  have hmem : e ∈ before ++ e :: after := by simp
  have hfar := h.lead_le e hmem
  have hlong := h.postDelay_le e hmem
  have hslot : ((s.policy.slotAfter e.window pre).since now).toNat = _ := lead_slotAfter (by omega)
  apply slotAfter_clear_of_next hmem h.apart h.sized (by omega) hreserved hpre hslot
  · intro x hx
    omega
  · intro x hx
    have hxfar := h.lead_le x hx
    have hxlong := h.postDelay_le x hx
    omega
  · intro x hx hlater
    obtain ⟨next, hhead, hafter, hle⟩ := exists_next_le h.ascending hx hlater
    exact ⟨next, by simp [List.mem_of_mem_head? hhead], hafter, hle, hnext next hhead⟩

/-! ## What the search finds -/

/-- The slot behind an entry overlaps the next one, so the walk goes on. -/
def PassedOver (s : Scheduler) (pre post : Span) (c : TrafficClass) (e next : Entry) : Prop :=
  s.overlaps next ⟨s.policy.slotAfter e.window pre, pre, post⟩ c = true

/-- The walk stops behind an entry, the last one or one whose slot does not overlap the next, and
passes over all before it. The induction is on the entries; each is skipped or answers. -/
theorem slotBehind_cases (s : Scheduler) (pre post : Span) (c : TrafficClass) (slot : Counter)
    {es : List Entry} (hes : es ≠ []) :
    ∃ before e after, es = before ++ e :: after ∧
      s.slotBehind pre post c slot es = s.policy.slotAfter e.window pre ∧
      (∀ next ∈ after.head?,
        s.overlaps next ⟨s.policy.slotAfter e.window pre, pre, post⟩ c = false) ∧
      (before ++ [e]).IsChain (s.PassedOver pre post c) := by
  induction es generalizing slot with
  | nil => exact absurd rfl hes
  | cons e rest ih =>
    cases rest with
    | nil =>
      refine ⟨[], e, [], rfl, rfl, ?_, .singleton e⟩
      intro next hnext
      cases hnext
    | cons next rest =>
      cases hoverlaps : s.overlaps next ⟨s.policy.slotAfter e.window pre, pre, post⟩ c with
      | true =>
        obtain ⟨before, f, after, hsplit, hslot, hclear, hpassed⟩ :=
          ih (s.policy.slotAfter e.window pre) (List.cons_ne_nil next rest)
        refine ⟨e :: before, f, after, ?_, ?_, hclear, ?_⟩
        · rw [hsplit, List.cons_append]
        · rw [slotBehind_cons_cons, hoverlaps, if_pos rfl]
          exact hslot
        · -- the entry that follows `e` begins the rest of the walk
          cases before with
          | nil =>
            obtain ⟨rfl, -⟩ := List.cons.inj hsplit
            exact .cons_cons hoverlaps hpassed
          | cons g before =>
            obtain ⟨rfl, -⟩ := List.cons.inj hsplit
            exact .cons_cons hoverlaps hpassed
      | false =>
        refine ⟨[], e, next :: rest, rfl, ?_, ?_, .singleton e⟩
        · rw [slotBehind_cons_cons, hoverlaps, if_neg Bool.false_ne_true]
        · intro n hn
          obtain rfl : next = n := Option.some.inj hn
          exact hoverlaps

/-- The search takes the time that is twice the look-ahead away if nothing stands in its way. -/
theorem asapSlot_of_clear (s : Scheduler) {q : Queue}
    (h : ∀ x ∈ q.entries, s.overlaps x ⟨s.policy.asapTime now, pre, post⟩ c = false) :
    s.asapSlot q now pre post c = s.policy.asapTime now := by
  rw [asapSlot]
  refine if_pos (List.all_eq_true.mpr ?_)
  intro x hx
  rw [h x hx]
  rfl

/-- The search takes that time, or, if something stands in its way, the slot behind the entry where
the walk stops. -/
theorem asapSlot_cases (s : Scheduler) (q : Queue) (now : Counter) (pre post : Span)
    (c : TrafficClass) :
    (s.asapSlot q now pre post c = s.policy.asapTime now ∧
      ∀ x ∈ q.entries, s.overlaps x ⟨s.policy.asapTime now, pre, post⟩ c = false) ∨
    ∃ before e after, q.entries = before ++ e :: after ∧
      s.asapSlot q now pre post c = s.policy.slotAfter e.window pre ∧
      (∀ next ∈ after.head?,
        s.overlaps next ⟨s.policy.slotAfter e.window pre, pre, post⟩ c = false) ∧
      (before ++ [e]).IsChain (s.PassedOver pre post c) ∧
      ¬∀ x ∈ q.entries, s.overlaps x ⟨s.policy.asapTime now, pre, post⟩ c = false := by
  by_cases hall : ∀ x ∈ q.entries, s.overlaps x ⟨s.policy.asapTime now, pre, post⟩ c = false
  · exact .inl ⟨s.asapSlot_of_clear hall, hall⟩
  · have hne : q.entries ≠ [] := by
      intro hnil
      apply hall
      intro x hx
      rw [hnil] at hx
      cases hx
    have hslot : s.asapSlot q now pre post c =
        s.slotBehind pre post c (s.policy.asapTime now) q.entries := by
      rw [asapSlot]
      refine if_neg ?_
      simpa using hall
    obtain ⟨before, e, after, hsplit, hstop, hclear, hpassed⟩ :=
      s.slotBehind_cases pre post c (s.policy.asapTime now) hne
    exact .inr ⟨before, e, after, hsplit, hslot.trans hstop, hclear, hpassed, hall⟩

/-- The slot that is found among entries that are spread out overlaps none of them. -/
theorem Spread.asapSlot_clear (h : s.Spread now far long q.entries)
    (hroomy : s.policy.Roomy far long) (hpre : pre = s.policy.preDelay .classC)
    (hpost : post.toNat ≤ long) :
    ∀ x ∈ q.entries, s.overlaps x ⟨s.asapSlot q now pre post .classC, pre, post⟩ .classC =
      false := by
  rcases s.asapSlot_cases q now pre post .classC with
    ⟨hslot, hclear⟩ | ⟨before, e, after, hsplit, hslot, hnext, -⟩
  · rw [hslot]
    exact hclear
  · rw [hsplit] at h
    rw [hslot, hsplit]
    exact h.slotAfter_clear hroomy hpre hpost hnext

/-- The time that is twice the look-ahead away. -/
theorem lead_asapTime (now : Counter) (h : 2 * s.policy.jitDelay.toNat < 2 ^ 32) :
    ((s.policy.asapTime now).since now).toNat = 2 * s.policy.jitDelay.toNat := by
  have htwo : (2 : Span).toNat = 2 := rfl
  rw [Policy.asapTime, Counter.after_since, Span.toNat_times, htwo]
  omega

/-- There is time to program the radio for the time that is twice the look-ahead away. -/
theorem minLead_lt_asapTime (now : Counter) (hroomy : s.policy.Roomy far long) :
    s.policy.minLead < (s.policy.asapTime now).since now := by
  obtain ⟨hlookahead, -, hturn⟩ := hroomy
  have hmin := s.policy.toNat_minLead
  rw [UInt32.lt_iff_toNat_lt, lead_asapTime now (by omega)]
  omega

/-- And for a slot behind an entry that lies ahead. -/
theorem minLead_lt_slotAfter {e : Entry} (hroomy : s.policy.Roomy far long)
    (hfar : (e.lead now).toNat ≤ far) (hlong : e.postDelay.toNat ≤ long)
    (hpre : pre = s.policy.preDelay .classC) :
    s.policy.minLead < (s.policy.slotAfter e.window pre).since now := by
  obtain ⟨hlookahead, -, hturn⟩ := hroomy
  have hmin := s.policy.toNat_minLead
  have hwhole : pre.toNat = s.policy.startDelay.toNat + s.policy.jitDelay.toNat := by
    rw [hpre, Policy.preDelay, Span.toNat_plus]
    rw [Policy.preDelay, Span.toNat_plus] at hturn
    omega
  rw [← hpre] at hturn
  rw [UInt32.lt_iff_toNat_lt, lead_slotAfter (by omega)]
  omega

/-- So there is time to program the radio for whatever slot is found among entries that are spread
out. -/
theorem Spread.minLead_lt_asapSlot (h : s.Spread now far long q.entries)
    (hroomy : s.policy.Roomy far long) (hpre : pre = s.policy.preDelay .classC) :
    s.policy.minLead < (s.asapSlot q now pre post .classC).since now := by
  rcases s.asapSlot_cases q now pre post .classC with
    ⟨hslot, -⟩ | ⟨before, e, after, hsplit, hslot, -⟩
  · rw [hslot]
    exact minLead_lt_asapTime now hroomy
  · have hmem : e ∈ q.entries := by
      rw [hsplit]
      simp
    rw [hslot]
    exact minLead_lt_slotAfter hroomy (h.lead_le e hmem) (h.postDelay_le e hmem) hpre

/-! ## Handing in an immediate downlink -/

/-- An immediate downlink that can enter the queue is accepted for the slot that is found if there
is time to program the radio and nothing overlaps the slot. -/
theorem enqueue_of_slot {p : Packet} {slot : Counter}
    (hentry : s.entryRefusal? { q with reference := now } p .classC = none)
    (hmode : p.mode = .immediate) (hpre : pre = s.policy.preDelay .classC)
    (hslot : s.asapSlot q now pre (s.timeOnAir p) .classC = slot)
    (hlead : s.policy.minLead < slot.since now)
    (hclear : ∀ x ∈ q.entries, s.overlaps x ⟨slot, pre, s.timeOnAir p⟩ .classC = false) :
    (s.enqueue q now p .classC).result = .ok slot := by
  have htarget : s.targetRefusal? q now
      (s.policy.window slot .classC (s.timeOnAir p)) .classC = none :=
    targetRefusal?_eq_none.mpr
      ⟨hlead, by simp [TrafficClass.isAdvanceBounded], by rwa [hpre] at hclear⟩
  subst hpre
  rw [enqueue_eq_ok_iff, outcome_eq_ok_iff, aim_of_immediate hmode]
  exact ⟨hentry, hslot, htarget⟩

/-- Among entries that are spread out there is a slot for every immediate downlink that can enter
the queue. -/
theorem Spread.enqueue_immediate {p : Packet} (h : s.Spread now far long q.entries)
    (hroomy : s.policy.Roomy far long)
    (hentry : s.entryRefusal? { q with reference := now } p .classC = none)
    (hmode : p.mode = .immediate) (hpost : (s.timeOnAir p).toNat ≤ long) :
    (s.enqueue q now p .classC).result =
      .ok (s.asapSlot q now (s.policy.preDelay .classC) (s.timeOnAir p) .classC) :=
  enqueue_of_slot hentry hmode rfl rfl (h.minLead_lt_asapSlot hroomy rfl)
    (h.asapSlot_clear hroomy rfl hpost)

end Search

end Scheduler

end Downlink
