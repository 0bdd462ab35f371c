import Downlink.Radio.Basic

/-!
# The scripted radio

A radio that says what it was told to say: its counter stands still, its status is set from outside,
and it refuses frames if it was given a reason to. It only remembers the packets it took.
-/

namespace Downlink

/-- A radio that follows a script. -/
structure ScriptedRadio where
  /-- the reading of its counter -/
  clock : Counter := ⟨0⟩
  /-- what it says it is doing -/
  status : TxStatus := .free
  /-- why it refuses frames, if it does -/
  refusal : Option RadioError := none
  /-- the packets it took, latest first -/
  taken : List Packet := []
deriving DecidableEq, Repr, Inhabited

namespace ScriptedRadio

/-- Takes a packet unless the script has it refuse. -/
def send (r : ScriptedRadio) (p : Packet) : Except RadioError Unit × ScriptedRadio :=
  match r.refusal with
  | some cause => (.error cause, r)
  | none => (.ok (), { r with taken := p :: r.taken })

instance : Radio ScriptedRadio where
  now := clock
  status := status
  send := send

end ScriptedRadio

end Downlink
