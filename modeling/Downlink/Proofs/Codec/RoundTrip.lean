import Downlink.Codec.Config
import Downlink.Codec.Packet
import Downlink.Codec.Traffic
import Downlink.Proofs.Json.Reading

/-!
# Reading back what was written

Packets, traffic profiles and gateway configurations are written as objects, and what is written is
read back (`formats_decode`). Neither the order of the members matters nor the blanks between the
tokens. A packet must be whole. Of a profile or a configuration members may be missing, in any of
its objects: `keeping` is what they then stand for, with the defaults in place of what is missing.

The modulation of a packet is the one record whose shape depends on a member. Until that member is
found the others are held back, which atoms of their sizes always can be.
-/

namespace Downlink

open Json

/-! ## Names -/

theorem TxMode.readsAs_toJson (m : TxMode) : ReadsAs ofJson? m.toJson m := by
  cases m <;> exact readsAs_atom rfl

theorem Bandwidth.readsAs_toJson (isAbsent : Json → Bool) (b : Bandwidth) :
    ReadsAs (ofJson? isAbsent) b.toJson b := by
  cases b <;> exact readsAs_atom rfl

theorem CodingRate.readsAs_toJson (isAbsent : Json → Bool) (r : CodingRate) :
    ReadsAs (ofJson? isAbsent) r.toJson r := by
  cases r <;> exact readsAs_atom rfl

/-! ## Profiles -/

namespace TrafficProfile

/-- The profile with the defaults in place of what is not kept. -/
def keeping (keep : List String → Bool) (p : TrafficProfile) : TrafficProfile :=
  let d : TrafficProfile := {}
  { classAInterval := if keep ["class_a_interval_ms"] then p.classAInterval else d.classAInterval
    classCInterval := if keep ["class_c_interval_ms"] then p.classCInterval else d.classCInterval
    rx1Delay := if keep ["rx1_delay_us"] then p.rx1Delay else d.rx1Delay
    payloadSize := if keep ["payload_size"] then p.payloadSize else d.payloadSize
    spreadingFactor := if keep ["spreading_factor"] then p.spreadingFactor else d.spreadingFactor
    frequency := if keep ["frequency_hz"] then p.frequency else d.frequency
    beacons := if keep ["beacons"] then p.beacons else d.beacons }

theorem readsAs_prune (keep : List String → Bool) (p : TrafficProfile) :
    ReadsAs ofJson? (p.toJson.prune keep) (p.keeping keep) := by
  intro w hw
  have hnames : fieldNames.Nodup := by decide
  obtain ⟨field, hfields, hA, hC, hrx, hsize, hsf, hfreq, hbeacons⟩ :=
    Rearranged.fields?_prune fieldNames hw hnames
  simp only [ofJson?, hfields, Option.bind_eq_bind, Option.bind_some,
    defaulted_of_givenIf hA (readsAs_atom (uint64?_ofNat _)),
    defaulted_of_givenIf hC (readsAs_atom (uint64?_ofNat _)),
    defaulted_of_givenIf hrx (readsAs_atom (uint32?_ofNat _)),
    defaulted_of_givenIf hsize (readsAs_atom (uint64?_ofNat _)),
    defaulted_of_givenIf hsf (readsAs_atom (uint8?_ofNat _)),
    defaulted_of_givenIf hfreq (readsAs_atom (uint32?_ofNat _)),
    defaulted_of_givenIf hbeacons (readsAs_atom (bool?_ofBool _))]
  rfl

end TrafficProfile

/-! ## Configurations -/

namespace QueueConfig

/-- The configuration with the defaults in place of what is not kept. -/
def keeping (keep : List String → Bool) (c : QueueConfig) : QueueConfig :=
  let d : QueueConfig := {}
  { capacity := if keep ["capacity"] then c.capacity else d.capacity
    startDelay := if keep ["start_delay_us"] then c.startDelay else d.startDelay
    jitDelay := if keep ["jit_delay_us"] then c.jitDelay else d.jitDelay
    margin := if keep ["margin_us"] then c.margin else d.margin
    beaconPeriod := if keep ["beacon_period_us"] then c.beaconPeriod else d.beaconPeriod
    beaconsInQueue := if keep ["beacons_in_queue"] then c.beaconsInQueue else d.beaconsInQueue
    beaconGuard := if keep ["beacon_guard_us"] then c.beaconGuard else d.beaconGuard
    beaconReserved := if keep ["beacon_reserved_us"] then c.beaconReserved else d.beaconReserved
    reservedBeaconSlots :=
      if keep ["reserved_beacon_slots"] then c.reservedBeaconSlots else d.reservedBeaconSlots }

theorem readsAs_prune (keep : List String → Bool) (c : QueueConfig) :
    ReadsAs ofJson? (c.toJson.prune keep) (c.keeping keep) := by
  intro w hw
  have hnames : fieldNames.Nodup := by decide
  obtain ⟨field, hfields, hcapacity, hstart, hjit, hmargin, hperiod, hbeacons, hguard, hreserved,
      hslots⟩ := Rearranged.fields?_prune fieldNames hw hnames
  simp only [ofJson?, hfields, Option.bind_eq_bind, Option.bind_some,
    defaulted_of_givenIf hcapacity (readsAs_atom (uint64?_ofNat _)),
    defaulted_of_givenIf hstart (readsAs_atom (uint32?_ofNat _)),
    defaulted_of_givenIf hjit (readsAs_atom (uint32?_ofNat _)),
    defaulted_of_givenIf hmargin (readsAs_atom (uint32?_ofNat _)),
    defaulted_of_givenIf hperiod (readsAs_atom (uint32?_ofNat _)),
    defaulted_of_givenIf hbeacons (readsAs_atom (uint32?_ofNat _)),
    defaulted_of_givenIf hguard (readsAs_atom (uint32?_ofNat _)),
    defaulted_of_givenIf hreserved (readsAs_atom (uint32?_ofNat _)),
    defaulted_of_givenIf hslots (readsAs_atom (uint64?_ofNat _))]
  rfl

end QueueConfig

namespace DispatcherConfig

/-- The configuration with the defaults in place of what is not kept. -/
def keeping (keep : List String → Bool) (c : DispatcherConfig) : DispatcherConfig :=
  let d : DispatcherConfig := {}
  { pollInterval := if keep ["poll_interval_ms"] then c.pollInterval else d.pollInterval
    core := if keep ["core"] then c.core else d.core
    threadPriority := if keep ["thread_priority"] then c.threadPriority else d.threadPriority }

theorem readsAs_prune (keep : List String → Bool) (c : DispatcherConfig) :
    ReadsAs ofJson? (c.toJson.prune keep) (c.keeping keep) := by
  intro w hw
  have hnames : fieldNames.Nodup := by decide
  obtain ⟨field, hfields, hpoll, hcore, hpriority⟩ := Rearranged.fields?_prune fieldNames hw hnames
  have hcoreRead : defaulted (field "core") (option? uint64?) none =
      some (if keep ["core"] then c.core else none) := by
    obtain ⟨poll, core, priority⟩ := c
    cases core with
    | none => exact defaulted_of_givenIf hcore (readsAs_atom rfl)
    | some core =>
      exact defaulted_of_givenIf hcore (readsAs_atom (option?_ofNat (uint64?_ofNat core)))
  simp only [ofJson?, hfields, Option.bind_eq_bind, Option.bind_some,
    defaulted_of_givenIf hpoll (readsAs_atom (uint64?_ofNat _)), hcoreRead,
    defaulted_of_givenIf hpriority (readsAs_atom (int32?_ofInt _))]
  rfl

end DispatcherConfig

namespace GatewayConfig

/-- The configuration with the defaults in place of what is not kept, in its parts as well. -/
def keeping (keep : List String → Bool) (c : GatewayConfig) : GatewayConfig :=
  let d : GatewayConfig := {}
  { queue := if keep ["jit"] then c.queue.keeping (within "jit" keep) else d.queue
    dispatcher :=
      if keep ["dispatcher"] then c.dispatcher.keeping (within "dispatcher" keep)
      else d.dispatcher }

theorem readsAs_prune (keep : List String → Bool) (c : GatewayConfig) :
    ReadsAs ofJson? (c.toJson.prune keep) (c.keeping keep) := by
  intro w hw
  have hnames : fieldNames.Nodup := by decide
  obtain ⟨field, hfields, hqueue, hdispatcher⟩ := Rearranged.fields?_prune fieldNames hw hnames
  simp only [ofJson?, hfields, Option.bind_eq_bind, Option.bind_some,
    defaulted_of_givenIf hqueue (c.queue.readsAs_prune _),
    defaulted_of_givenIf hdispatcher (c.dispatcher.readsAs_prune _)]
  rfl

end GatewayConfig

/-! ## Packets -/

namespace Modulation

variable {modem : String} {fields : List (String × Json)} {w : Json}

/-- A modulation in any arrangement names its modem, and what is left besides that are its fields,
in some arrangement. -/
theorem ofJson?_of_rearranged (level : Nat)
    (h : Rearranged (ofMembers ((tag, .ofString modem) :: fields)) w)
    (htag : tag ∉ fields.map (·.1)) (hfields : fields.Forall fun m => Held m.2) :
    ∃ rest, Rearranged (ofMembers fields) rest ∧ ofJson? level w = ofTagged? modem rest := by
  obtain ⟨members, rfl⟩ := h.eq_object
  have hother : ∀ m ∈ fields.map fun m => (some m.1, m.2), (m.1 == some tag) = false := by
    intro m hm
    obtain ⟨f, hf, rfl⟩ := List.mem_map.mp hm
    refine beq_eq_false_iff_ne.mpr fun heq => htag ?_
    exact List.mem_map.mpr ⟨f, hf, Option.some.inj heq⟩
  have htags := h.filter (· == some tag)
  have hrest := h.filter fun name => !(name == some tag)
  rw [List.map_cons, List.filter_cons_of_pos (by simp),
    List.filter_eq_nil_iff.mpr fun m hm => by simp [hother m hm]] at htags
  rw [List.map_cons, List.filter_cons_of_neg (by simp),
    List.filter_eq_self.mpr fun m hm => by simp [hother m hm]] at hrest
  refine ⟨_, hrest, ?_⟩
  have hheld := membersAreHoldable_of_held hrest hfields (level + 1)
  have hsplit : (members.partition fun m => m.1 == some tag) =
      ([(some tag, .ofString modem)], members.filter fun m => !(m.1 == some tag)) := by
    rw [List.partition_eq_filter_filter, htags.eq_singleton]
    rfl
  simp only [ofJson?, hsplit]
  rw [ofString]
  exact if_pos hheld

/-- A modulation is read back, however it is rearranged and wherever it stands. -/
theorem readsAs_toJson (level : Nat) (m : Modulation) : ReadsAs (ofJson? level) m.toJson m := by
  intro w hw
  cases m with
  | lora m =>
    have hnames : LoraSettings.fieldNames.Nodup := by decide
    have htag : tag ∉ LoraSettings.fieldNames := by decide
    have hsmall : m.spreadingFactor.toNat < 2 ^ 53 ∧ m.preambleSymbols.toNat < 2 ^ 53 :=
      ⟨Nat.lt_trans m.spreadingFactor.toNat_lt (by decide),
        Nat.lt_trans m.preambleSymbols.toNat_lt (by decide)⟩
    obtain ⟨rest, hrest, hmodem⟩ := ofJson?_of_rearranged level hw htag
      ⟨held_ofNat hsmall.1, held_ofString _, held_ofString _, held_ofNat hsmall.2, held_ofBool _,
        held_ofBool _⟩
    obtain ⟨field, hfields, ⟨hsf, hbandwidth, hrate, hpreamble, hheader, hcrc⟩, -⟩ :=
      hrest.fields? LoraSettings.fieldNames hnames
    simp only [hmodem, ofTagged?, reduceIte, hfields, LoraSettings.ofFields?, Option.bind_eq_bind,
      Option.bind_some, required_of_given hsf (readsAs_atom (uint8?_ofNat _)),
      required_of_given hbandwidth (m.bandwidth.readsAs_toJson _),
      required_of_given hrate (m.codingRate.readsAs_toJson _),
      required_of_given hpreamble (readsAs_atom (uint16?_ofNat _)),
      required_of_given hheader (readsAs_atom (bool?_ofBool _)),
      required_of_given hcrc (readsAs_atom (bool?_ofBool _))]
    rfl
  | fsk m =>
    have hnames : FskSettings.fieldNames.Nodup := by decide
    have htag : tag ∉ FskSettings.fieldNames := by decide
    have hsmall : m.datarate.toNat < 2 ^ 53 ∧ m.preambleBytes.toNat < 2 ^ 53 :=
      ⟨Nat.lt_trans m.datarate.toNat_lt (by decide),
        Nat.lt_trans m.preambleBytes.toNat_lt (by decide)⟩
    obtain ⟨rest, hrest, hmodem⟩ := ofJson?_of_rearranged level hw htag
      ⟨held_ofNat hsmall.1, held_ofNat hsmall.2, held_ofBool _⟩
    obtain ⟨field, hfields, ⟨hrate, hpreamble, hcrc⟩, -⟩ :=
      hrest.fields? FskSettings.fieldNames hnames
    simp only [hmodem, ofTagged?, reduceIte, hfields, FskSettings.ofFields?, Option.bind_eq_bind,
      Option.bind_some, required_of_given hrate (readsAs_atom (uint32?_ofNat _)),
      required_of_given hpreamble (readsAs_atom (uint16?_ofNat _)),
      required_of_given hcrc (readsAs_atom (bool?_ofBool _))]
    rfl

end Modulation

namespace Packet

/-- A packet is read back, however it is rearranged. -/
theorem readsAs_toJson (p : Packet) : ReadsAs ofJson? p.toJson p := by
  intro w hw
  have hnames : fieldNames.Nodup := by decide
  obtain ⟨field, hfields, ⟨hid, htarget, hmode, hfrequency, hpower, hmodulation, hpayload⟩, -⟩ :=
    Rearranged.fields? fieldNames hw hnames
  simp only [ofJson?, hfields, Option.bind_eq_bind, Option.bind_some,
    required_of_given hid (readsAs_atom (uint64?_ofNat _)),
    required_of_given htarget (readsAs_atom (uint32?_ofNat _)),
    required_of_given hmode p.mode.readsAs_toJson,
    required_of_given hfrequency (readsAs_atom (uint32?_ofNat _)),
    required_of_given hpower (readsAs_atom (int8?_ofInt _)),
    required_of_given hmodulation (p.modulation.readsAs_toJson 2),
    required_of_given hpayload (readsAs_bytes p.payload)]
  rfl

end Packet

/-! ## Texts -/

/-- The configuration, if its values fit together. -/
def GatewayConfig.checked (c : GatewayConfig) : Except ConfigError GatewayConfig :=
  match c.queue.validate with
  | .ok () => .ok c
  | .error cause => .error (.inconsistent cause)

/-- A configuration is checked after what is missing got its default. -/
theorem GatewayConfig.ofText_eq_checked {c : GatewayConfig} {keep : List String → Bool}
    {text : String} (h : (c.toJson.prune keep).Says text) :
    ofText text = (c.keeping keep).checked := by
  rw [ofText, h.parse (c.readsAs_prune keep), checked]
  dsimp only
  cases (c.keeping keep).queue.validate <;> rfl

/-- **What is written is read back.** Take any packet, any profile and any gateway configuration.
Written as a compact or an indented text they are read back as they are, the configuration if its
values fit together. The same holds of every text that has the members of any of the objects in
another order and any blanks around the tokens. If a text leaves out members of the objects of a
profile or a configuration, these have their defaults, and it is the configuration with the defaults
that is checked. -/
theorem formats_decode (p : Packet) (t : TrafficProfile) (c : GatewayConfig) :
    (∀ write ∈ [Json.compact, Json.indented],
      (parse (write p.toJson)).bind Packet.ofJson? = some p ∧
      (parse (write t.toJson)).bind TrafficProfile.ofJson? = some t ∧
      GatewayConfig.ofText (write c.toJson) = c.checked) ∧
    ∀ text : String,
      (p.toJson.Says text → (parse text).bind Packet.ofJson? = some p) ∧
      ∀ keep : List String → Bool,
        ((t.toJson.prune keep).Says text →
          (parse text).bind TrafficProfile.ofJson? = some (t.keeping keep)) ∧
        ((c.toJson.prune keep).Says text →
          GatewayConfig.ofText text = (c.keeping keep).checked) := by
  have hprofile (text : String) (keep : List String → Bool) (h : (t.toJson.prune keep).Says text) :
      (parse text).bind TrafficProfile.ofJson? = some (t.keeping keep) :=
    h.parse (t.readsAs_prune keep)
  constructor
  · intro write hwrite
    simp only [List.mem_cons, List.not_mem_nil, or_false] at hwrite
    have hwritten (v : Json) : v.Says (write v) := by
      rcases hwrite with rfl | rfl
      · exact v.says_compact
      · exact v.says_indented
    -- what is written leaves nothing out
    have hwhole (v : Json) : (v.prune fun _ => true).Says (write v) := by
      rw [prune_all]
      exact hwritten v
    exact ⟨(hwritten _).parse p.readsAs_toJson, hprofile _ _ (hwhole _),
      GatewayConfig.ofText_eq_checked (hwhole _)⟩
  · intro text
    exact ⟨fun h => h.parse p.readsAs_toJson,
      fun keep => ⟨hprofile text keep, GatewayConfig.ofText_eq_checked⟩⟩

/-- A packet whose members, and those of whose modulation, stand in reverse order, so that the modem
is named last; a profile of which only the frequency is written; and a configuration without a
dispatcher whose queue has no room. -/
theorem formats_decode_arranged :
    let m : LoraSettings := ⟨9, .khz125, .fourFifths, 8, false, true⟩
    let p : Packet :=
      ⟨18446744073709551615, ⟨4294967295⟩, .timestamped, 869525000, -5, .lora m, [0, 255]⟩
    let reversed := Json.ofMembers [
      ("payload", .array [.ofNat 0, .ofNat 255]),
      ("modulation", .ofMembers [("crc", .ofBool true), ("implicit_header", .ofBool false),
        ("preamble_symbols", .ofNat 8), ("coding_rate", .ofString "4/5"),
        ("bandwidth", .ofString "125"), ("spreading_factor", .ofNat 9),
        ("modulation", .ofString "lora")]),
      ("rf_power_dbm", .ofInt (-5)), ("frequency_hz", .ofNat 869525000),
      ("tx_mode", .ofString "timestamped"), ("target_time_us", .ofNat 4294967295),
      ("id", .ofNat 18446744073709551615)]
    let t : TrafficProfile := { classAInterval := 0, frequency := 868100000, beacons := false }
    let c : GatewayConfig :=
      { queue := { capacity := 0, margin := 500 }, dispatcher := { core := some 3 } }
    let keep := [["frequency_hz"], ["jit"], ["jit", "capacity"]].contains
    (t.toJson.prune keep).compact = "\x7b\"frequency_hz\":868100000\x7d" ∧
      (c.toJson.prune keep).compact = "\x7b\"jit\":\x7b\"capacity\":0\x7d\x7d" ∧
      p.toJson.Says reversed.indented ∧
      (parse reversed.indented).bind Packet.ofJson? = some p ∧
      (parse (t.toJson.prune keep).indented).bind TrafficProfile.ofJson? =
        some { frequency := 868100000 } ∧
      GatewayConfig.ofText (c.toJson.prune keep).indented =
        .error (.inconsistent .noCapacity) := by
  intro m p reversed t c keep
  have hmodulation : Rearranged p.modulation.toJson _ :=
    .object (rearranged_members _) (List.reverse_perm _).symm
  have hwritten : p.toJson.Says reversed.indented := by
    refine ⟨reversed, .object ?_ (List.reverse_perm _), spelled_indented _⟩
    exact .cons (.mk _ (.refl _)) (.cons (.mk _ (.refl _)) (.cons (.mk _ (.refl _))
      (.cons (.mk _ (.refl _)) (.cons (.mk _ (.refl _)) (.cons (.mk _ hmodulation)
        (.cons (.mk _ (.refl _)) .nil))))))
  obtain ⟨-, hall⟩ := formats_decode p t c
  exact ⟨by decide +kernel, by decide +kernel, hwritten, (hall _).1 hwritten,
    ((hall _).2 keep).1 (says_indented _), ((hall _).2 keep).2 (says_indented _)⟩

end Downlink
