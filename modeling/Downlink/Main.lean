import Downlink.CommandLine
import Downlink.Queue.Report

/-!
# The program

Runs a simulated gateway in real time, as long as the options say, and prints the statistics at the
end. This module reads the clock of the machine and prints; what happens at each time is decided by
the simulation.
-/

namespace Downlink.Main

/-- Prints the notices that are logged at the chosen verbosity. -/
def log (verbosity : Nat) (notices : List Notice) : IO Unit :=
  for n in notices do
    if n.level.isLoggedAt verbosity then IO.println n.line

/-- Microseconds on the machine's clock. -/
def machineMicros : IO Nat := do return (← IO.monoNanosNow) / 1000

/-- Advances the simulation until its time is over. The queue was last shown at `shown`. -/
partial def loop (o : Options) (poll : UInt32) (begun : Nat) (g : Simulation) (shown : Nat) :
    IO Simulation := do
  let elapsed := (← machineMicros) - begun
  if o.duration.toNat * 1000000 ≤ elapsed then return g
  let (g, notices) := g.advance elapsed
  log o.verbosity notices
  let show_ := o.showQueue && shown + 1000000 ≤ elapsed
  if show_ then log o.verbosity [g.station.queue.announce true 1]
  IO.sleep poll
  loop o poll begun g (if show_ then elapsed else shown)

/-- Ends the program as told. -/
def finish (e : Exit) : IO UInt32 := do
  IO.print e.output
  if e.error ≠ "" then IO.eprintln e.error
  return e.code.toUInt32

/-- The size of an error number, which the machine may give with a minus in front. -/
def errorNumber (n : UInt32) : Nat :=
  if n.toNat < 2147483648 then n.toNat else UInt32.size - n.toNat

/-- The reason behind an error of the machine. -/
def readError : IO.Error → ReadError
  | .noFileOrDirectory .. => .notFound
  | .alreadyExists _ n w | .otherError n w | .resourceBusy n w | .resourceVanished n w
  | .unsupportedOperation n w | .hardwareFault n w | .unsatisfiedConstraints n w
  | .illegalOperation n w | .protocolError n w | .timeExpired n w | .interrupted _ n w
  | .invalidArgument _ n w | .permissionDenied _ n w | .resourceExhausted _ n w
  | .inappropriateType _ n w | .noSuchThing _ n w => .ofNumber (errorNumber n) w
  | .unexpectedEof | .userError _ => .notFound

/-- The bytes of the configuration file that the arguments name, if they name one. -/
def configBytes (args : List String) : IO (Except ReadError ByteArray) := do
  match CommandLine.parse args with
  | some (.run { config := some path, .. }) =>
    try
      return .ok (← IO.FS.readBinFile path)
    catch e => return .error (readError e)
  | _ => return .error .notFound

/-- The whole program. -/
def run (args : List String) : IO UInt32 := do
  let bytes ← configBytes args
  match CommandLine.start (fun _ => bytes) args with
  | .error e => finish e
  | .ok (o, config) =>
    let poll := UInt32.ofNat (min config.dispatcher.pollInterval.toNat 50)
    let g := Simulation.new config.queue o.profile ⟨o.counterStart⟩
    let g ← loop o poll (← machineMicros) g 0
    finish (CommandLine.report g.stats)

end Downlink.Main

def main (args : List String) : IO UInt32 := Downlink.Main.run args
