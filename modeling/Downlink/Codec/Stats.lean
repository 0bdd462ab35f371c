import Downlink.Codec.Packet
import Downlink.Queue.Basic

/-!
# Reports as JSON

The statistics and the entries of a queue, which are only ever written.
-/

namespace Downlink

/-- A list with one value for each class. -/
def PerClass.toJson {α : Type} (value : α → Json) (t : PerClass α) : Json :=
  .array (t.toList.map value)

/-- The refusals of a class, by reason. -/
def RefusalCounts.toJson (n : RefusalCounts) : Json := .ofMembers [
  ("invalid", .ofNat n.invalid.toNat),
  ("full", .ofNat n.full.toNat),
  ("too_late", .ofNat n.tooLate.toNat),
  ("too_early", .ofNat n.tooEarly.toNat),
  ("collision_packet", .ofNat n.collisionPacket.toNat),
  ("collision_beacon", .ofNat n.collisionBeacon.toNat)]

/-- The statistics. -/
def Stats.toJson (s : Stats) : Json :=
  let counts := PerClass.toJson fun n : UInt64 => .ofNat n.toNat
  .ofMembers [
    ("enqueued", counts s.enqueued),
    ("rejected", s.rejected.toJson RefusalCounts.toJson),
    ("stale_dropped", counts s.staleDropped),
    ("transmitted", counts s.transmitted),
    ("tx_failed", counts s.txFailed)]

/-- What there is to know about an entry without its contents. -/
def Entry.toJson (e : Entry) : Json := .ofMembers [
  ("id", .ofNat e.packet.id.toNat),
  ("target_time_us", .ofNat e.target.ticks.toNat),
  ("pre_delay_us", .ofNat e.preDelay.toNat),
  ("post_delay_us", .ofNat e.postDelay.toNat),
  ("packet_type", e.trafficClass.toJson),
  ("size_bytes", .ofNat e.packet.size)]

end Downlink
