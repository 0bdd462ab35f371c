import Downlink.Proofs.Queue.Contents
import Mathlib.Data.Finset.Max

/-!
# What a poll keeps, drops and takes

A poll first drops what is stale, and then an entry may be due, the one with the least lead. Here
this is said entry by entry: whether an entry stays, is dropped or is taken depends on that entry
alone, but for the order in which those that are due are taken. `Scheduler.drain` polls until
nothing is due any more, and what comes out is all that is ripe (`Scheduler.mem_drain`).

Admission and the stale test are two range checks. They agree on targets less than the maximum
advance away; farther away a class that is not bounded is still admitted, and the next poll drops
it.
-/

namespace Downlink

namespace Scheduler

variable {s : Scheduler} {q : Queue} {now : Counter}

/-! ## When nothing is due -/

/-- Some entry has the least lead. -/
theorem exists_least_lead (now : Counter) (h : q.entries ≠ []) :
    ∃ e ∈ q.entries, ∀ f ∈ q.entries, e.lead now ≤ f.lead now := by
  have hne : q.entries.toFinset.Nonempty := List.toFinset_nonempty_iff _ |>.mpr h
  obtain ⟨e, he, hleast⟩ := q.entries.toFinset.exists_min_image (fun e => (e.lead now).toNat) hne
  refine ⟨e, List.mem_toFinset.mp he, ?_⟩
  intro f hf
  rw [UInt32.le_iff_toNat_le]
  exact hleast f (List.mem_toFinset.mpr hf)

/-- Nothing is due just when every entry has the look-ahead left at least. -/
theorem due?_eq_none :
    s.due? q now = none ↔ ∀ e ∈ q.entries, s.policy.jitDelay ≤ e.lead now := by
  rw [due?, List.findIdx?_eq_none_iff]
  constructor
  · intro h e he
    -- the entry that comes first of all is not due, and `e` has as much left as that
    obtain ⟨first, hfirst, hleast⟩ := exists_least_lead now (List.ne_nil_of_mem he)
    have hnot := h first hfirst
    have hall : (q.entries.all fun f => decide (first.lead now ≤ f.lead now)) = true := by
      rw [List.all_eq_true]
      intro f hf
      exact decide_eq_true (hleast f hf)
    rw [hall, Bool.and_true, decide_eq_false_iff_not, UInt32.not_lt] at hnot
    exact UInt32.le_trans hnot (hleast e he)
  · intro h e he
    rw [decide_eq_false (UInt32.not_lt.mpr (h e he)), Bool.false_and]

/-! ## What one poll takes -/

/-- Whether an entry is to be sent at the next poll that gets to it: its slot has not passed, and it
is no longer away than the look-ahead. -/
def Ripe (s : Scheduler) (now : Counter) (e : Entry) : Prop :=
  s.isStale now e = false ∧ e.lead now < s.policy.jitDelay

/-- Dropping what is stale loses nothing that is not. -/
theorem Parted.mem_left {gone : List Entry} {left : Queue} (h : s.Parted now q gone left)
    {e : Entry} : e ∈ left.entries ↔ e ∈ q.entries ∧ s.isStale now e = false := by
  rw [← h.perm.mem_iff, List.mem_append]
  constructor
  · intro he
    exact ⟨.inr he, h.kept e he⟩
  · rintro ⟨hgone | hleft, hfresh⟩
    · rw [h.stale e hgone] at hfresh
      cases hfresh
    · exact hleft

/-- What is dropped as stale is what is stale. -/
theorem Parted.mem_gone {gone : List Entry} {left : Queue} (h : s.Parted now q gone left)
    {e : Entry} : e ∈ gone ↔ e ∈ q.entries ∧ s.isStale now e = true := by
  rw [← h.perm.mem_iff, List.mem_append]
  constructor
  · intro he
    exact ⟨.inl he, h.stale e he⟩
  · rintro ⟨hgone | hleft, hstale⟩
    · exact hgone
    · rw [h.kept e hleft] at hstale
      cases hstale

/-- Peeking keeps just the entries that are not stale. -/
theorem mem_peek {e : Entry} :
    e ∈ (s.peek q now).queue.entries ↔ e ∈ q.entries ∧ s.isStale now e = false := by
  rcases s.peek_cases q now with ⟨hnil, -, hq⟩ | ⟨-, gone, left, -, hparted, -, hq⟩
  · rw [hq, hnil]
    simp
  · rw [hq, countStale_entries]
    exact hparted.mem_left

/-- A poll that takes an entry takes a ripe one; the ones that stay, along with it, are those that
were not stale. -/
theorem takeDue_some {e : Entry} (h : (s.takeDue q now).result = .ok (some e)) :
    s.Ripe now e ∧ ∀ f, f = e ∨ f ∈ (s.takeDue q now).queue.entries ↔
      f ∈ q.entries ∧ s.isStale now f = false := by
  rcases s.takeDue_cases q now with
    ⟨-, herror, -⟩ | ⟨-, gone, left, -, hparted, ⟨-, hnone, -⟩ | ⟨i, hi, hdue, hsome, hq⟩⟩
  · rw [herror] at h
    cases h
  · rw [hnone] at h
    cases h
  · obtain rfl : left.entries[i] = e := by
      rw [hsome] at h
      exact Option.some.inj (Except.ok.inj h)
    obtain ⟨_, hjit, -⟩ := due?_eq_some hdue
    refine ⟨⟨hparted.kept _ (List.getElem_mem hi), hjit⟩, ?_⟩
    intro f
    rw [hq, countStale_entries, ← List.mem_cons, (s.removeAt_perm hi).mem_iff]
    exact hparted.mem_left

/-- A poll that takes nothing leaves no ripe entry behind, and all that were not stale. -/
theorem takeDue_not_some (h : ∀ e, (s.takeDue q now).result ≠ .ok (some e)) {e : Entry} :
    ¬(e ∈ q.entries ∧ s.Ripe now e) ∧
      (e ∈ (s.takeDue q now).queue.entries ↔ e ∈ q.entries ∧ s.isStale now e = false) := by
  rcases s.takeDue_cases q now with
    ⟨hnil, -, hq⟩ | ⟨-, gone, left, -, hparted, ⟨hdue, -, hq⟩ | ⟨i, hi, -, hsome, -⟩⟩
  · rw [hq, hnil]
    simp
  · rw [hq, countStale_entries]
    refine ⟨?_, hparted.mem_left⟩
    rintro ⟨he, hfresh, hjit⟩
    have hwait := due?_eq_none.mp hdue e (hparted.mem_left.mpr ⟨he, hfresh⟩)
    exact UInt32.not_lt.mpr hwait hjit
  · exact absurd hsome (h _)

/-- A poll takes or keeps just the entries that are not stale. -/
theorem mem_takeDue {e : Entry} : ((s.takeDue q now).result = .ok (some e) ∨
    e ∈ (s.takeDue q now).queue.entries) ↔ e ∈ q.entries ∧ s.isStale now e = false := by
  by_cases h : ∃ x, (s.takeDue q now).result = .ok (some x)
  · obtain ⟨x, hx⟩ := h
    rw [← (takeDue_some hx).2 e, hx, Except.ok.injEq, Option.some.injEq, eq_comm]
  · have hnot : ∀ x, (s.takeDue q now).result ≠ .ok (some x) := fun x hx => h ⟨x, hx⟩
    rw [← (takeDue_not_some hnot).2]
    exact or_iff_right (hnot e)

/-! ## Polling until nothing is due -/

/-- A poll that takes an entry leaves fewer. -/
theorem length_takeDue_lt {e : Entry} (h : (s.takeDue q now).result = .ok (some e)) :
    (s.takeDue q now).queue.entries.length < q.entries.length := by
  rcases s.takeDue_cases q now with
    ⟨-, herror, -⟩ | ⟨-, gone, left, -, hparted, ⟨-, hnone, -⟩ | ⟨i, hi, -, -, hq⟩⟩
  · rw [herror] at h
    cases h
  · rw [hnone] at h
    cases h
  · have hlen := s.length_removeAt left i hi
    have hsum := hparted.perm.length_eq
    rw [List.length_append] at hsum
    change _ = q.entries.length at hsum
    rw [hq, countStale_entries]
    omega

/-- Takes what is due until nothing is, and gives it in the order it went. -/
def drain (s : Scheduler) (now : Counter) (q : Queue) : List Entry × Queue :=
  match _h : (s.takeDue q now).result with
  | .ok (some e) =>
    let rest := drain s now (s.takeDue q now).queue
    (e :: rest.1, rest.2)
  | .ok none | .error _ => ([], (s.takeDue q now).queue)
termination_by q.entries.length
decreasing_by exact length_takeDue_lt _h

theorem drain_of_some {e : Entry} (h : (s.takeDue q now).result = .ok (some e)) :
    s.drain now q = (e :: (s.drain now (s.takeDue q now).queue).1,
      (s.drain now (s.takeDue q now).queue).2) := by
  rw [drain]
  split
  next f hf =>
    obtain rfl : e = f := Option.some.inj (Except.ok.inj (h.symm.trans hf))
    rfl
  next hnone => rw [h] at hnone; cases hnone
  next herror => rw [h] at herror; cases herror

theorem drain_of_not_some (h : ∀ e, (s.takeDue q now).result ≠ .ok (some e)) :
    s.drain now q = ([], (s.takeDue q now).queue) := by
  rw [drain]
  split
  next e he => exact absurd he (h e)
  next => rfl
  next => rfl

/-- What is taken is what is ripe. The induction is on the polls; an entry that is ripe is taken by
this one or stays for the next. -/
theorem mem_drain {e : Entry} : e ∈ (s.drain now q).1 ↔ e ∈ q.entries ∧ s.Ripe now e := by
  induction hn : q.entries.length using Nat.strong_induction_on generalizing q with
  | _ n ih =>
    subst hn
    by_cases h : ∃ x, (s.takeDue q now).result = .ok (some x)
    · obtain ⟨x, hx⟩ := h
      obtain ⟨hripe, hmem⟩ := takeDue_some hx
      have hrest := ih _ (length_takeDue_lt hx) rfl
      rw [drain_of_some hx, List.mem_cons, hrest]
      constructor
      · rintro (rfl | ⟨he, he'⟩)
        · exact ⟨((hmem e).mp (.inl rfl)).1, hripe⟩
        · exact ⟨((hmem e).mp (.inr he)).1, he'⟩
      · rintro ⟨he, he'⟩
        rcases (hmem e).mpr ⟨he, he'.1⟩ with rfl | hleft
        · exact .inl rfl
        · exact .inr ⟨hleft, he'⟩
    · have hnot : ∀ x, (s.takeDue q now).result ≠ .ok (some x) := fun x hx => h ⟨x, hx⟩
      rw [drain_of_not_some hnot]
      simp [(takeDue_not_some hnot).1]

end Scheduler

/-! ## The first poll after admission -/

/-- **Admission and staleness.** A downlink that is accepted for a target less than the maximum
advance away is not stale yet: a peek at the same reading keeps it. One that is accepted for a
target farther away than that, because its class is not bounded, is dropped by that peek. -/
theorem enqueue_peek (config : QueueConfig) (airtime : AirtimeModel) {q : Queue} {now : Counter}
    {p : Packet} {c : TrafficClass} {target : Counter}
    (h : ((Scheduler.ofConfig config airtime).enqueue q now p c).result = .ok target) :
    let s := Scheduler.ofConfig config airtime
    let after := (s.enqueue q now p c).queue
    ∃ e ∈ after.entries, e.packet = { p with target, mode := .timestamped } ∧
      e.trafficClass = c ∧
      (target.since now < config.maxAdvance → e ∈ (s.peek after now).queue.entries) ∧
      (c.isAdvanceBounded = false → config.maxAdvance ≤ target.since now →
        e ∉ (s.peek after now).queue.entries) := by
  intro s after
  obtain ⟨e, he, rfl, -, hmem⟩ := Scheduler.enqueue_eq_ok h
  refine ⟨e, hmem, he.packet_eq, he.trafficClass, ?_, ?_⟩
  · intro hnear
    exact Scheduler.mem_peek.mpr ⟨hmem, decide_eq_false (UInt32.not_le.mpr hnear)⟩
  · intro _ hfar hstays
    exact of_decide_eq_false (Scheduler.mem_peek.mp hstays).2 hfar

/-- A reply at the last microsecond that is near enough. -/
theorem enqueue_peek_near :
    let s := Scheduler.ofConfig {} (.fixed 50000)
    let reply := Packet.timestamped 1 [0x60] ⟨511999999⟩ 869525000 (.loraDownlink 9 .khz125)
    let after := (s.enqueue {} ⟨0⟩ reply .classA).queue
    (s.enqueue {} ⟨0⟩ reply .classA).result = .ok ⟨511999999⟩ ∧
      ∃ e ∈ (s.peek after ⟨0⟩).queue.entries, e.packet = reply := by
  intro s reply after
  have h : (s.enqueue {} ⟨0⟩ reply .classA).result = .ok ⟨511999999⟩ := by decide +kernel
  obtain ⟨e, -, hpacket, -, hnear, -⟩ := enqueue_peek {} (.fixed 50000) h
  exact ⟨h, e, hnear (by decide +kernel), hpacket⟩

/-- A class C downlink and a beacon that are accepted for more than the maximum advance ahead, and
dropped by a peek at the same reading. -/
theorem enqueue_peek_far :
    let s := Scheduler.ofConfig {} (.fixed 50000)
    let frame := Packet.timestamped 1 [0x60] ⟨512000001⟩ 869525000 (.loraDownlink 9 .khz125)
    QueueConfig.validate {} = .ok () ∧ ∀ c : TrafficClass, c = .classC ∨ c = .beacon →
      (s.enqueue {} ⟨0⟩ frame c).result = .ok ⟨512000001⟩ ∧
      (s.enqueue {} ⟨0⟩ frame c).queue.entries ≠ [] ∧
      (s.peek (s.enqueue {} ⟨0⟩ frame c).queue ⟨0⟩).queue.entries = [] := by
  intro s frame
  refine ⟨rfl, ?_⟩
  rintro c (rfl | rfl) <;> decide +kernel

end Downlink
