import Downlink.Packet

/-!
# What a radio offers

Draining a queue takes three things of a radio: its counter, whether it is free, and a way to hand
it a frame. `Radio` is that interface; it has a simulated and a scripted instance.
-/

namespace Downlink

/-- What a radio is doing. -/
inductive TxStatus where
  /-- nothing -/
  | free
  /-- a frame waits for its start -/
  | scheduled
  /-- a frame is on air -/
  | emitting
deriving DecidableEq, Repr, Inhabited

/-- The name of a status in reports. -/
def TxStatus.label : TxStatus → String
  | .free => "Free"
  | .scheduled => "Scheduled"
  | .emitting => "Emitting"

/-- Why a radio did not take a frame. -/
inductive RadioError where
  /-- a frame is on air -/
  | busy
  /-- the hardware refused the frame -/
  | rejected (reason : String)
deriving DecidableEq, Repr, Inhabited

/-- The wording of a radio's refusal. -/
def RadioError.message : RadioError → String
  | .busy => "concentrator is busy emitting"
  | .rejected reason => "transmission rejected: " ++ reason

/-- A radio whose state is a value of `ρ`. -/
class Radio (ρ : Type) where
  /-- the reading of its counter -/
  now : ρ → Counter
  /-- what it is doing -/
  status : ρ → TxStatus
  /-- hands it a packet to send at the packet's target, and says whether the radio took it -/
  send : ρ → Packet → Except RadioError Unit × ρ

end Downlink
