import FrameSpans.CommandLine.Settings

/-!
# Command line arguments

Arguments are scanned from left to right. A long option starts with hyphens and may carry its value
behind an equals sign; otherwise the next argument that is not an option is its value. Short options
are switches and may be bundled. An argument of two hyphens ends the options; everything behind it is
part of the frame, as is everything that is neither an option nor a value.

Scanning fails at the first option that does not exist and ends at a request for help or for the
version. What an option was given is looked at afterwards: there must be a frame, an option must have
a value or a default, every value must be readable, and only options that make sense more than once
may be repeated.
-/

namespace FrameSpans.CommandLine

/-- Why the arguments are not settings. -/
inductive ArgumentError
  /-- Help was asked for. -/
  | helpRequested
  /-- The version was asked for. -/
  | versionRequested
  /-- There is no such option. -/
  | unknown (argument : String)
  /-- There is no frame. -/
  | missingFrame
  /-- An option was given without the value it needs. -/
  | missingValue (option : String)
  /-- The value of an option can not be read. -/
  | invalidValue (option value : String)
  /-- An option was given more than once. -/
  | repeated (option : String)
  deriving DecidableEq, Repr

/-- The text shown for arguments that are not settings. -/
def ArgumentError.message : ArgumentError → String
  | .helpRequested => "usage: [options] <frame>..."
  | .versionRequested => "0.0.1"
  | .unknown argument => "unknown argument " ++ argument
  | .missingFrame => "no frame given"
  | .missingValue option => "--" ++ option ++ " needs a value"
  | .invalidValue option value => "invalid value " ++ value ++ " for --" ++ option
  | .repeated option => "--" ++ option ++ " was given more than once"

/-! ## Options -/

/-- An option without a value. -/
inductive Switch
  /-- The frame starts with an IP header. -/
  | rawIp
  /-- Write the descriptor word by word. -/
  | fast
  /-- Report every protocol as present. -/
  | noBitmask
  /-- Record no options. -/
  | noOptions
  /-- Register no tunnel handlers. -/
  | noTunnels
  /-- Show more of the log. -/
  | verbose
  /-- Show help. -/
  | help
  /-- Show the version. -/
  | version
  deriving DecidableEq, Repr

/-- The long name of a switch. -/
def Switch.name : Switch → String
  | .rawIp => "raw-ip"
  | .fast => "fast"
  | .noBitmask => "no-bitmask"
  | .noOptions => "no-options"
  | .noTunnels => "no-tunnels"
  | .verbose => "verbose"
  | .help => "help"
  | .version => "version"

/-- The switches that may be given once at most. -/
def Switch.single : List Switch :=
  [.rawIp, .fast, .noBitmask, .noOptions, .noTunnels]

/-- The switch of a long name. -/
def Switch.ofName? (name : String) : Option Switch :=
  [.rawIp, .fast, .noBitmask, .noOptions, .noTunnels, .verbose, .help, .version].find?
    (·.name == name)

/-- The switch of a letter. -/
def Switch.ofLetter? : Char → Option Switch
  | 'v' => some .verbose
  | 'h' => some .help
  | 'V' => some .version
  | _ => none

/-- An option with a value. -/
inductive Parameter
  /-- The length of the frame on the wire. -/
  | wireLength
  /-- The timestamp. -/
  | timestamp
  /-- The byte order of the descriptor. -/
  | endian
  /-- A class of options that are not recorded. -/
  | disable
  /-- How many levels of encapsulation are entered. -/
  | maxDepth
  deriving DecidableEq, Repr

/-- The long name of a parameter. -/
def Parameter.name : Parameter → String
  | .wireLength => "wire-len"
  | .timestamp => "timestamp"
  | .endian => "endian"
  | .disable => "disable"
  | .maxDepth => "max-depth"

/-- All parameters. -/
def Parameter.all : List Parameter :=
  [.wireLength, .timestamp, .endian, .disable, .maxDepth]

/-- The parameter of a long name. -/
def Parameter.ofName? (name : String) : Option Parameter :=
  Parameter.all.find? (·.name == name)

/-- The value a parameter has when it is not given one. -/
def Parameter.default? : Parameter → Option String
  | .timestamp => some "0"
  | .endian => some "native"
  | .maxDepth => some "4"
  | .wireLength => none
  | .disable => none

/-! ## Scanning -/

/-- What was found in the arguments so far. -/
structure Scan where
  /-- The parts of the frame. -/
  frame : List String := []
  /-- The switches, one entry each time one was given. -/
  switches : List Switch := []
  /-- The parameters, one entry each time one was given. -/
  parameters : List Parameter := []
  /-- The values given to parameters. -/
  values : List (Parameter × String) := []
  /-- The parameter whose value is to come. -/
  awaiting : Option Parameter := none
  /-- Whether the options have ended. -/
  ended : Bool := false
  deriving DecidableEq, Repr

namespace Scan

/-- A switch was given. -/
def addSwitch (scan : Scan) (switch : Switch) : Except ArgumentError Scan :=
  match switch with
  | .help => .error .helpRequested
  | .version => .error .versionRequested
  | _ => .ok { scan with switches := scan.switches ++ [switch], awaiting := none }

/-- A long option was given, its hyphens removed. Equals signs in front of a value are dropped, and
a value given to a switch is not looked at. -/
def addLong (scan : Scan) (text : List Char) : Except ArgumentError Scan :=
  let name := String.ofList (text.takeWhile (· != '='))
  let value? :=
    if text.contains '=' then some (String.ofList ((text.dropWhile (· != '=')).dropWhile (· == '=')))
    else none
  match Parameter.ofName? name with
  | some parameter =>
    let given := { scan with parameters := scan.parameters ++ [parameter] }
    match value? with
    | some value =>
      .ok { given with values := given.values ++ [(parameter, value)], awaiting := none }
    | none => .ok { given with awaiting := some parameter }
  | none =>
    match Switch.ofName? name with
    | some switch => scan.addSwitch switch
    | none => .error (.unknown ("--" ++ name))

/-- Letters of switches were given, their hyphens removed. -/
def addLetters (scan : Scan) : List Char → Except ArgumentError Scan
  | [] => .ok scan
  | c :: rest =>
    match Switch.ofLetter? c with
    | none => .error (.unknown (String.ofList ['-', c]))
    | some switch =>
      match scan.addSwitch switch with
      | .error error => .error error
      | .ok added => added.addLetters rest

/-- An argument that is neither an option nor a value. -/
def addFrame (scan : Scan) (argument : String) : Scan :=
  { scan with frame := scan.frame ++ [argument] }

/-- Scans one argument. -/
def add (scan : Scan) (argument : String) : Except ArgumentError Scan :=
  if scan.ended then .ok (scan.addFrame argument)
  else
    match argument.toList with
    -- A parameter keeps waiting for its value behind the end of the options.
    | ['-', '-'] => .ok { scan with ended := true }
    | '-' :: '-' :: rest => scan.addLong (rest.dropWhile (· == '-'))
    | '-' :: c :: rest => scan.addLetters (c :: rest)
    | _ =>
      match scan.awaiting with
      | some parameter =>
        .ok { scan with values := scan.values ++ [(parameter, argument)], awaiting := none }
      | none => .ok (scan.addFrame argument)

/-- Scans arguments. -/
def addAll (scan : Scan) : List String → Except ArgumentError Scan
  | [] => .ok scan
  | argument :: rest =>
    match scan.add argument with
    | .error error => .error error
    | .ok added => added.addAll rest

/-- Whether a parameter was given. -/
def isGiven (scan : Scan) (parameter : Parameter) : Bool :=
  scan.parameters.contains parameter

/-- The values of a parameter: those given, or its default if there are none. -/
def valuesOf (scan : Scan) (parameter : Parameter) : List String :=
  match (scan.values.filter (·.1 == parameter)).map Prod.snd with
  | [] => parameter.default?.toList
  | values => values

end Scan

/-! ## Values -/

/-- A number below `bound` in decimal digits, behind at most one plus sign. -/
def natBelow? (bound : Nat) (text : String) : Option Nat :=
  let unsigned :=
    match text.toList with
    | '+' :: rest => rest
    | chars => chars
  if unsigned.isEmpty || !unsigned.all Char.isDigit then none
  else
    let n := unsigned.foldl (fun n c => n * 10 + (c.toNat - '0'.toNat)) 0
    if n < bound then some n else none

/-- A byte order by its name. -/
def endian? : String → Option Endian
  | "big" => some .big
  | "little" => some .little
  | "native" => some .native
  | _ => none

/-- A class of options by its name. -/
def optionClass? : String → Option Class
  | "ipv4" => some .ipv4Option
  | "ipv6" => some .ipv6Extension
  | "tcp" => some .tcpOption
  | _ => none

/-- Whether a parameter can have a value. -/
def Parameter.accepts : Parameter → String → Bool
  | .wireLength, value => (natBelow? offsetBound value).isSome
  | .timestamp, value => (natBelow? offsetBound value).isSome
  | .endian, value => (endian? value).isSome
  | .disable, value => (optionClass? value).isSome
  | .maxDepth, value => (natBelow? 256 value).isSome

/-! ## Settings -/

/-- What is wrong with the way a parameter was given, if anything is. -/
def Scan.parameterError? (scan : Scan) (parameter : Parameter) : Option ArgumentError :=
  if scan.isGiven parameter && (scan.valuesOf parameter).isEmpty then
    some (.missingValue parameter.name)
  else
    match (scan.valuesOf parameter).find? (!parameter.accepts ·) with
    | some value => some (.invalidValue parameter.name value)
    | none =>
      if parameter ≠ .disable ∧ 1 < scan.parameters.count parameter then
        some (.repeated parameter.name)
      else none

/-- What is wrong with the way a switch was given, if anything is. -/
def Scan.switchError? (scan : Scan) (switch : Switch) : Option ArgumentError :=
  if 1 < scan.switches.count switch then some (.repeated switch.name) else none

/-- What is wrong with the arguments that were scanned, if anything is. -/
def Scan.error? (scan : Scan) : Option ArgumentError :=
  if scan.frame.isEmpty then some .missingFrame
  else
    -- A parameter at the very end comes before all others.
    match scan.awaiting.bind fun parameter =>
      if (scan.valuesOf parameter).isEmpty then some (ArgumentError.missingValue parameter.name)
      else none with
    | some error => some error
    | none =>
      match Parameter.all.findSome? scan.parameterError? with
      | some error => some error
      | none => Switch.single.findSome? scan.switchError?

/-- The settings that were scanned. -/
def Scan.settings (scan : Scan) : Settings where
  frame := scan.frame
  rawIp := scan.switches.contains .rawIp
  wireLength := (scan.valuesOf .wireLength).head?.bind (natBelow? offsetBound)
  timestamp := UInt64.ofNat (((scan.valuesOf .timestamp).head?.bind (natBelow? offsetBound)).getD 0)
  endian := ((scan.valuesOf .endian).head?.bind endian?).getD .native
  packed := scan.switches.contains .fast
  allProtocols := scan.switches.contains .noBitmask
  noOptions := scan.switches.contains .noOptions
  disabled := (scan.valuesOf .disable).filterMap optionClass?
  noTunnels := scan.switches.contains .noTunnels
  maxDepth := UInt8.ofNat (((scan.valuesOf .maxDepth).head?.bind (natBelow? 256)).getD 4)
  verbosity := UInt8.ofNat (scan.switches.count .verbose)

/-- The settings that arguments ask for. -/
def parse (arguments : List String) : Except ArgumentError Settings :=
  match ({} : Scan).addAll arguments with
  | .error error => .error error
  | .ok scan =>
    match scan.error? with
    | some error => .error error
    | none => .ok scan.settings

end FrameSpans.CommandLine
