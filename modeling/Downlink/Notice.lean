import Downlink.Radio.Basic
import Downlink.Stats

/-!
# Notices

The lines that a queue and its dispatcher log. A notice says what happened; `Notice.line` is how it
is written: a level, a message, and the values it is about.
-/

namespace Downlink

/-- How much a notice matters. -/
inductive Level where
  | error
  | warn
  | info
  | debug
deriving DecidableEq, Repr

/-- The name of a level. -/
def Level.label : Level → String
  | .error => "ERROR"
  | .warn => "WARN"
  | .info => "INFO"
  | .debug => "DEBUG"

/-- Whether a line of this level is logged at a verbosity: warnings and errors always, the rest one
level further with each step. -/
def Level.isLoggedAt (verbosity : Nat) : Level → Bool
  | .error | .warn => true
  | .info => 1 ≤ verbosity
  | .debug => 2 ≤ verbosity

/-- Something worth a line in the log. -/
inductive Notice where
  /-- a downlink was accepted, with so many entries queued afterwards -/
  | enqueued (trafficClass : TrafficClass) (target : Counter) (lead postDelay : Span)
      (queued : Nat)
  /-- a downlink was refused -/
  | rejected (trafficClass : TrafficClass) (target now : Counter) (reason : Refusal)
  /-- an entry was taken out by its index -/
  | dequeued (trafficClass : TrafficClass) (target : Counter) (index : Nat)
  /-- an entry was dropped because its slot had passed -/
  | stale (trafficClass : TrafficClass) (target now : Counter)
  /-- an entry was taken out because it is due -/
  | due (trafficClass : TrafficClass) (target : Counter) (lead : Span)
  /-- a due downlink was lost because a frame is on air -/
  | lost (trafficClass : TrafficClass) (target : Counter)
  /-- a waiting frame is about to be replaced -/
  | overwriting
  /-- the radio refused a due downlink -/
  | failed (cause : RadioError) (target : Counter)
  /-- the radio took a due downlink -/
  | programmed (trafficClass : TrafficClass) (target : Counter) (lead : Span) (size : Nat)
  /-- a description of the queue -/
  | description (level : Level) (text : String)
deriving DecidableEq, Repr

namespace Notice

/-- How much it matters. -/
def level : Notice → Level
  | .enqueued .. | .dequeued .. | .due .. => .debug
  | .rejected .. | .stale .. | .overwriting => .warn
  | .lost .. | .failed .. => .error
  | .programmed .. => .info
  | .description level _ => level

/-- Values with their names, each after a space. -/
def fields (values : List (String × String)) : String :=
  String.join (values.map fun v => " " ++ v.1 ++ "=" ++ v.2)

/-- What it says, without its level. -/
def text : Notice → String
  | .enqueued c target lead postDelay queued =>
    "downlink enqueued" ++ fields [("packet_type", c.label), ("target_us", toString target.ticks),
      ("lead_us", toString lead), ("post_delay_us", toString postDelay),
      ("queued", toString queued)]
  | .rejected c target now reason =>
    "downlink rejected" ++ fields [("packet_type", c.label), ("target_us", toString target.ticks),
      ("now_us", toString now.ticks), ("reason", reason.message)]
  | .dequeued c target index =>
    "downlink dequeued" ++ fields [("packet_type", c.label), ("target_us", toString target.ticks),
      ("index", toString index)]
  | .stale c target now =>
    "dropping downlink that missed its slot" ++ fields [("packet_type", c.label),
      ("target_us", toString target.ticks), ("now_us", toString now.ticks)]
  | .due c target lead =>
    "downlink due" ++ fields [("packet_type", c.label), ("target_us", toString target.ticks),
      ("lead_us", toString lead)]
  | .lost c target =>
    "concentrator is currently emitting, downlink lost" ++ fields [("packet_type", c.label),
      ("target_us", toString target.ticks)]
  | .overwriting => "a downlink was already scheduled, overwriting it"
  | .failed cause target =>
    "transmission failed" ++ fields [("error", cause.message), ("target_us", toString target.ticks)]
  | .programmed c target lead size =>
    "downlink programmed" ++ fields [("packet_type", c.label), ("target_us", toString target.ticks),
      ("lead_us", toString lead), ("size", toString size)]
  | .description _ text => "[jit] " ++ text

/-- The line that is logged. -/
def line (n : Notice) : String := n.level.label ++ " " ++ n.text

end Notice

end Downlink
