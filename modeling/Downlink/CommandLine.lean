import Downlink.Codec.Config
import Downlink.Codec.Stats
import Downlink.Simulation

/-!
# The command line

Options are written `--name value`, `--name=value`, `-n value`, `-nvalue` or `-n=value`, and flags
`--name` or `-n`; short flags can be run together, with an option as the last. Arguments are read
from left to right, and the first one that is wrong, or given a second time, makes the whole line
wrong. Verbosity alone may be given more than once, which raises it.

A value that stands by itself must not begin with a dash, a lone dash excepted. There are no other
arguments, and two dashes, behind which such would stand, are accepted only at the end.
-/

namespace Downlink

/-- The options of a simulation. -/
structure Options where
  /-- how much is logged -/
  verbosity : Nat := 0
  /-- the configuration file, if any -/
  config : Option String := none
  /-- how long to run, in seconds -/
  duration : UInt64 := 30
  /-- what the counter shows at first -/
  counterStart : UInt32 := 0
  /-- time between two replies in milliseconds; none if zero -/
  classAMillis : UInt64 := 400
  /-- time between two pushes in milliseconds; none if zero -/
  classCMillis : UInt64 := 1500
  /-- the spreading factor of data -/
  spreadingFactor : UInt8 := 9
  /-- whether beacons are left out -/
  noBeacons : Bool := false
  /-- whether the queue is shown every second -/
  showQueue : Bool := false
deriving DecidableEq, Repr

/-- The traffic that the options ask for. -/
def Options.profile (o : Options) : TrafficProfile :=
  { classAInterval := o.classAMillis, classCInterval := o.classCMillis
    spreadingFactor := o.spreadingFactor, beacons := !o.noBeacons }

/-- How a program ends: its exit code and what it writes. -/
structure Exit where
  /-- the exit code -/
  code : UInt8
  /-- the standard output -/
  output : String := ""
  /-- the standard error output -/
  error : String := ""
deriving DecidableEq, Repr

namespace CommandLine

/-! ## Values -/

/-- A natural number in decimal digits, which may have a plus in front. -/
def nat? (s : String) : Option Nat :=
  let ds :=
    match s.toList with
    | '+' :: ds => ds
    | ds => ds
  if ds.isEmpty || !ds.all Char.isDigit then none
  else some (Json.decimal ds)

/-- An integer in decimal digits with a sign or without. -/
def int? (s : String) : Option Int :=
  match s.toList with
  | '-' :: d :: ds => if d = '+' then none else (nat? (String.ofList (d :: ds))).map fun n => -n
  | _ => (nat? s).map fun n => n

/-- A word of 64 bits. -/
def uint64? (s : String) : Option UInt64 :=
  (nat? s).bind fun n => if n < UInt64.size then some (.ofNat n) else none

/-- A word of 32 bits. -/
def uint32? (s : String) : Option UInt32 :=
  (int? s).bind fun i => if 0 ≤ i ∧ i < UInt32.size then some (.ofNat i.toNat) else none

/-- A spreading factor that radios support. -/
def spreadingFactor? (s : String) : Option UInt8 :=
  (int? s).bind fun i => if 7 ≤ i ∧ i ≤ 12 then some (.ofNat i.toNat) else none

/-! ## Arguments -/

/-- What can be given on the command line. -/
inductive Argument where
  | verbose
  | config
  | duration
  | counterStart
  | classAMillis
  | classCMillis
  | spreadingFactor
  | noBeacons
  | showQueue
  | help
  | version
deriving DecidableEq, Repr

namespace Argument

/-- The argument with a long name. -/
def long? : String → Option Argument
  | "verbose" => some .verbose
  | "config" => some .config
  | "duration" => some .duration
  | "counter-start" => some .counterStart
  | "class-a-ms" => some .classAMillis
  | "class-c-ms" => some .classCMillis
  | "sf" => some .spreadingFactor
  | "no-beacons" => some .noBeacons
  | "show-queue" => some .showQueue
  | "help" => some .help
  | "version" => some .version
  | _ => none

/-- The argument with a short name. -/
def short? : Char → Option Argument
  | 'v' => some .verbose
  | 'c' => some .config
  | 'd' => some .duration
  | 'h' => some .help
  | 'V' => some .version
  | _ => none

/-- Whether a value belongs to it. -/
def takesValue : Argument → Bool
  | .config | .duration | .counterStart | .classAMillis | .classCMillis | .spreadingFactor => true
  | .verbose | .noBeacons | .showQueue | .help | .version => false

end Argument

/-- What a command line asks for. -/
inductive Request where
  /-- to be told about the options -/
  | help
  /-- to be told the version -/
  | version
  /-- to run a simulation -/
  | run (options : Options)
deriving DecidableEq, Repr

/-- What the arguments read so far come to. -/
structure Progress where
  /-- the options -/
  options : Options := {}
  /-- the arguments given -/
  given : List Argument := []

/-- The options with a value set, if it is acceptable. -/
def setValue (o : Options) (a : Argument) (value : String) : Option Options :=
  match a with
  | .config => if value.isEmpty then none else some { o with config := some value }
  | .duration => (uint64? value).map fun n => { o with duration := n }
  | .counterStart => (uint32? value).map fun n => { o with counterStart := n }
  | .classAMillis => (uint64? value).map fun n => { o with classAMillis := n }
  | .classCMillis => (uint64? value).map fun n => { o with classCMillis := n }
  | .spreadingFactor => (spreadingFactor? value).map fun n => { o with spreadingFactor := n }
  | _ => none

/-- The options with a flag set. -/
def setFlag (o : Options) : Argument → Options
  | .verbose => { o with verbosity := o.verbosity + 1 }
  | .noBeacons => { o with noBeacons := true }
  | .showQueue => { o with showQueue := true }
  | _ => o

/-- Reads an option with its value. -/
def Progress.option? (p : Progress) (a : Argument) (value : String) : Option Progress :=
  if a ∈ p.given then none
  else (setValue p.options a value).map fun o => ⟨o, a :: p.given⟩

/-- Reads a flag; a flag that asks to be told something ends the reading with that. -/
def Progress.flag? (p : Progress) (a : Argument) : Option (Progress ⊕ Request) :=
  match a with
  | .help => some (.inr .help)
  | .version => some (.inr .version)
  | .verbose => some (.inl { p with options := setFlag p.options .verbose })
  | a =>
    if a ∈ p.given then none else some (.inl ⟨setFlag p.options a, a :: p.given⟩)

/-- What one argument of the command line was found to be. -/
inductive Reading where
  /-- complete in itself -/
  | next (p : Progress)
  /-- an option whose value has to follow -/
  | awaiting (p : Progress) (a : Argument)
  /-- a request that settles the matter -/
  | settled (r : Request)

/-- Reads short flags that are run together, the last of which may be an option. -/
def shorts? (p : Progress) : List Char → Option Reading
  | [] => some (.next p)
  | c :: cs =>
    match Argument.short? c with
    | none => none
    | some a =>
      if a.takesValue then
        match cs with
        | [] => some (.awaiting p a)
        | '=' :: value => (p.option? a (String.ofList value)).map .next
        | value => (p.option? a (String.ofList value)).map .next
      else
        match p.flag? a with
        | none => none
        | some (.inr r) => some (.settled r)
        | some (.inl p) => shorts? p cs

/-- Reads a long argument, without the dashes in front. -/
def long? (p : Progress) (body : List Char) : Option Reading :=
  let name := body.takeWhile (· != '=')
  let value := body.dropWhile (· != '=')
  match Argument.long? (String.ofList name) with
  | none => none
  | some a =>
    match a.takesValue, value with
    | true, [] => some (.awaiting p a)
    | true, _ :: value => (p.option? a (String.ofList value)).map .next
    | false, [] =>
      match p.flag? a with
      | none => none
      | some (.inr r) => some (.settled r)
      | some (.inl p) => some (.next p)
    | false, _ :: _ => none

/-- Reads one argument. -/
def argument? (p : Progress) (arg : String) : Option Reading :=
  match arg.toList with
  | '-' :: '-' :: body => long? p body
  | '-' :: c :: cs => shorts? p (c :: cs)
  | _ => none

/-- Whether an argument can be the value of the option before it. -/
def isValue (arg : String) : Bool :=
  match arg.toList with
  | '-' :: _ :: _ => false
  | _ => true

/-- Reads the arguments behind those in `p`; `awaiting` is the option whose value has to come. -/
def read (p : Progress) (awaiting : Option Argument) : List String → Option Request
  | [] => if awaiting.isSome then none else some (.run p.options)
  | arg :: args =>
    match awaiting with
    | some a =>
      if isValue arg then
        match p.option? a arg with
        | none => none
        | some p => read p none args
      else none
    | none =>
      if arg = "--" then if args.isEmpty then some (.run p.options) else none
      else
        match argument? p arg with
        | none => none
        | some (.settled r) => some r
        | some (.awaiting p a) => read p (some a) args
        | some (.next p) => read p none args

/-- What a command line asks for, if it is right. -/
def parse (args : List String) : Option Request := read {} none args

/-! ## Answers -/

/-- How each option is written, and what is said about it. -/
def usageRows : List (String × String) := [
  ("-v, --verbose...", "Verbosity (-v, -vv, -vvv)"),
  ("-c, --config <CONFIG>", "JSON configuration file (defaults apply when omitted)"),
  ("-d, --duration <DURATION>", "Run duration in seconds [default: 30]"),
  ("    --counter-start <COUNTER_START>",
    "Initial concentrator counter value (use a value near 4294967295 to cross the wrap) " ++
      "[default: 0]"),
  ("    --class-a-ms <CLASS_A_MS>",
    "Interval between simulated Class A uplinks in ms (0 disables) [default: 400]"),
  ("    --class-c-ms <CLASS_C_MS>",
    "Interval between immediate Class C pushes in ms (0 disables) [default: 1500]"),
  ("    --sf <SF>", "Downlink spreading factor (7-12) [default: 9]"),
  ("    --no-beacons", "Disable beacon generation"),
  ("    --show-queue", "Dump the queue every second"),
  ("-h, --help", "Print help"),
  ("-V, --version", "Print version")]

/-- The width of the column in which the options stand. -/
def usageWidth : Nat := (usageRows.map fun row => row.1.length).foldl max 0

/-- A line of two columns, two blanks apart. -/
def usageLine (row : String × String) : String :=
  let gap := List.replicate (usageWidth - row.1.length + 2) ' '
  "  " ++ row.1 ++ String.ofList gap ++ row.2 ++ "\n"

/-- What is said about the options. -/
def usage : String :=
  "Simulate LoRaWAN downlink JIT scheduling\n\nUsage: jit-sim [OPTIONS]\n\nOptions:\n" ++
    String.join (usageRows.map usageLine)

/-- The version of the program. -/
def version : String := "jit-sim 0.1.0\n"

/-- How a configuration error is reported when the program ends with it. -/
def errorLine : ConfigError → String
  | .file (.unreadable cause) =>
    s!"Error: Io(Os \x7b code: {cause.number}, kind: {cause.kind}, message: " ++
      Text.quoted cause.wording ++ " \x7d)"
  | .file .notText =>
    "Error: Io(Error \x7b kind: InvalidData, message: \"stream did not contain valid UTF-8\" \x7d)"
  | .malformed => "Error: Json"
  | .inconsistent cause => "Error: Invalid(" ++ Text.quoted cause.message ++ ")"

/-- The configuration that the options ask for, where `read` gives what there is at a path. -/
def configure (o : Options) (read : String → Except ReadError ByteArray) :
    Except ConfigError GatewayConfig :=
  match o.config with
  | none => .ok {}
  | some path => GatewayConfig.ofFile (read path)

/-- The end of a simulation, which prints what became of the downlinks. -/
def report (stats : Stats) : Exit := { code := 0, output := stats.toJson.indented ++ "\n" }

/-- What the program does first: it ends at once, or runs a simulation. `read` gives what there is
at a path. -/
def start (read : String → Except ReadError ByteArray) (args : List String) :
    Except Exit (Options × GatewayConfig) :=
  match parse args with
  | none => .error { code := 2 }
  | some .help => .error { code := 0, output := usage }
  | some .version => .error { code := 0, output := version }
  | some (.run o) =>
    match configure o read with
    | .error cause => .error { code := 1, error := errorLine cause }
    | .ok config => .ok (o, config)

end CommandLine

end Downlink
