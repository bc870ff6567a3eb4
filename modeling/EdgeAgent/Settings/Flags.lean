import EdgeAgent.Settings.Basic
import EdgeAgent.Settings.LogFilter

/-! The command line: flags with values. A value follows its flag as the next argument, unless that
begins with a hyphen, or in the same argument after an equals sign. A flag is given at most once,
and the address of the platform and the token must be given. A flag is looked at again when the next
one is met, so that an argument that belongs nowhere is found before a value that cannot be read. -/

namespace EdgeAgent

/-- A flag. -/
inductive Flag where
  | logLevel
  | logFormat
  | cluster
  | context
  | user
  | kubeconfig
  | actingUser
  | actingGroup
  | answerTimeout
  | adminAddr
  | authAddr
  | platformUrl
  | token
  | syncIntervalSecs
  | syncTimeoutMs
  | policyQueueSize
  | ingressClassName
  | traefikEntryPoint
  deriving DecidableEq

/-- Why a command line gives no settings. -/
inductive ArgumentError where
  /-- An argument is no flag and no value of one. -/
  | unknown (argument : String)
  /-- A flag has no value, or an empty one where that is not allowed. -/
  | withoutValue (flag : Flag)
  | unreadable (flag : Flag) (value : String)
  /-- Reading breaks off at a value that is out of bounds or torn. -/
  | aborted (flag : Flag) (value : String)
  | repeated (flag : Flag)
  | missing (flags : List Flag)
  deriving DecidableEq

namespace Flag

/-- The name of a flag, without its two hyphens. -/
def name : Flag → String
  | .logLevel => "log-level"
  | .logFormat => "log-format"
  | .cluster => "cluster"
  | .context => "context"
  | .user => "user"
  | .kubeconfig => "kubeconfig"
  | .actingUser => "as"
  | .actingGroup => "as-group"
  | .answerTimeout => "kube-api-response-headers-timeout"
  | .adminAddr => "admin-addr"
  | .authAddr => "auth-addr"
  | .platformUrl => "platform-url"
  | .token => "token"
  | .syncIntervalSecs => "sync-interval-secs"
  | .syncTimeoutMs => "sync-timeout-ms"
  | .policyQueueSize => "policy-queue-size"
  | .ingressClassName => "ingress-class-name"
  | .traefikEntryPoint => "traefik-entry-point"

def all : List Flag :=
  [.logLevel, .logFormat, .cluster, .context, .user, .kubeconfig, .actingUser, .actingGroup,
    .answerTimeout, .adminAddr, .authAddr, .platformUrl, .token, .syncIntervalSecs,
    .syncTimeoutMs, .policyQueueSize, .ingressClassName, .traefikEntryPoint]

/-- The flags that must be given. -/
def required : List Flag := [.platformUrl, .token]

def ofName? (s : String) : Option Flag :=
  all.find? fun f => f.name = s

end Flag

namespace CommandLine

/-- A number of 64 bits in decimal digits, with a plus sign or without one. -/
def number? (s : String) : Option UInt64 := do
  let ds := match s.toList with
    | '+' :: r => r
    | r => r
  let n ← Decimal.read? ds
  if n < UInt64.size then some (UInt64.ofNat n) else none

/-- The form of log lines of a name. -/
def logFormat? : String → Option LogFormat
  | "plain" => some .plain
  | "json" => some .json
  | _ => none

/-- Why the value of a flag is not taken over. -/
inductive ValueError where
  | unreadable
  /-- The value is out of bounds, a part of it would be cut within a character, or two parts of it
  cannot be told apart. -/
  | aborted
  deriving DecidableEq

/-- The fault of a value about a filter of the log. -/
def ValueError.ofLogFilter : LogFilterError → ValueError
  | .malformed => .unreadable
  | .withinCharacter => .aborted
  | .repeatedPattern => .aborted

/-- The fault of a value about a span of time. -/
def ValueError.ofTimeSpan : TimeSpanError → ValueError
  | .malformed => .unreadable
  | .outOfBounds => .aborted

/-- What is read from a value, which is a fault if it cannot be read. -/
def readable {α : Type} : Option α → Except ValueError α
  | some x => .ok x
  | none => .error .unreadable

def set (flag : Flag) (value : String) (s : Settings) : Except ValueError Settings :=
  match flag with
  | .logLevel =>
    ((LogFilter.scopes value).mapError .ofLogFilter).map fun _ => { s with logFilter := value }
  | .logFormat => (readable (logFormat? value)).map fun x => { s with logFormat := x }
  | .cluster => .ok { s with access := { s.access with cluster := some value } }
  | .context => .ok { s with access := { s.access with context := some value } }
  | .user => .ok { s with access := { s.access with user := some value } }
  | .kubeconfig => .ok { s with access := { s.access with configuration := some value } }
  | .actingUser => .ok { s with access := { s.access with actingUser := some value } }
  | .actingGroup => .ok { s with access := { s.access with actingGroup := some value } }
  | .answerTimeout =>
    ((TimeSpan.ofText value).mapError .ofTimeSpan).map fun x =>
      { s with access := { s.access with answerTimeout := x } }
  | .adminAddr =>
    (readable (ListenAddress.ofText? value)).map fun x => { s with adminAddress := x }
  | .authAddr =>
    (readable (ListenAddress.ofText? value)).map fun x => { s with authAddress := x }
  | .platformUrl => .ok { s with platformUrl := value }
  | .token => .ok { s with token := value }
  | .syncIntervalSecs => (readable (number? value)).map fun x => { s with syncInterval := x }
  | .syncTimeoutMs => (readable (number? value)).map fun x => { s with syncTimeout := x }
  | .policyQueueSize => (readable (number? value)).map fun x => { s with queueSize := x }
  | .ingressClassName => .ok { s with child := { s.child with ingressClass := value } }
  | .traefikEntryPoint => .ok { s with child := { s.child with entryPoint := value } }

/-- A command line that is read in part. -/
structure Reading where
  settings : Settings := { platformUrl := "", token := "" }
  /-- The flags whose values were taken over. -/
  given : List Flag := []
  /-- The flag that was met last, with its value if that has come. -/
  pending : Option (Flag × Option String) := none

namespace Reading

/-- A reading after the value of a flag was taken over. -/
def take (flag : Flag) (value : String) (r : Reading) : Except ArgumentError Reading :=
  if flag ∈ r.given then .error (.repeated flag)
  else if flag = .kubeconfig ∧ value = "" then .error (.withoutValue flag)
  else
    match set flag value r.settings with
    | .ok settings => .ok { r with settings := settings, given := flag :: r.given }
    | .error .unreadable => .error (.unreadable flag value)
    | .error .aborted => .error (.aborted flag value)

/-- A reading after the flag that was met last has been looked at. -/
def resolve (r : Reading) : Except ArgumentError Reading :=
  match r.pending with
  | none => .ok r
  | some (flag, none) => .error (.withoutValue flag)
  | some (flag, some value) => take flag value { r with pending := none }

/-- A reading after an argument that begins with two hyphens, by what follows these. -/
def takeFlag (argument : String) (body : List Char) (r : Reading) : Except ArgumentError Reading :=
  let (name, value?) := match cutFirst '=' body with
    | some (name, value) => (name, some (String.ofList value))
    | none => (body, none)
  match Flag.ofName? (String.ofList name) with
  | none => .error (.unknown argument)
  | some flag => do
    let r ← r.resolve
    match value? with
    | some value => r.take flag value
    | none => .ok { r with pending := some (flag, none) }

/-- A reading after an argument that is no flag. -/
def takePlain (argument : String) (r : Reading) : Except ArgumentError Reading :=
  match r.pending with
  | some (flag, none) => .ok { r with pending := some (flag, some argument) }
  | _ => .error (.unknown argument)

/-- A reading after more arguments. After two hyphens that stand alone, nothing may follow. -/
def takeAll (r : Reading) : List String → Except ArgumentError Reading
  | [] => .ok r
  | argument :: rest =>
    match argument.toList with
    | ['-', '-'] =>
      match rest with
      | [] => .ok r
      | extra :: _ => .error (.unknown extra)
    | '-' :: '-' :: body =>
      match r.takeFlag argument body with
      | .ok r => takeAll r rest
      | .error e => .error e
    | '-' :: _ :: _ => .error (.unknown argument)
    | _ =>
      match r.takePlain argument with
      | .ok r => takeAll r rest
      | .error e => .error e

end Reading

/-- The settings that a command line gives. -/
def settings (arguments : List String) : Except ArgumentError Settings := do
  let r ← Reading.takeAll {} arguments
  let r ← r.resolve
  match Flag.required.filter fun flag => flag ∉ r.given with
  | [] => .ok r.settings
  | missing => .error (.missing missing)

end CommandLine

/-- The settings that may be shown, by the flags that set them. The token is not among them. -/
def Settings.shown (s : Settings) : List (Flag × String) :=
  [(.authAddr, s.authAddress.text), (.platformUrl, s.platformUrl),
    (.syncIntervalSecs, Decimal.text s.syncInterval.toNat),
    (.syncTimeoutMs, Decimal.text s.syncTimeout.toNat),
    (.policyQueueSize, Decimal.text s.queueSize.toNat),
    (.ingressClassName, s.child.ingressClass), (.traefikEntryPoint, s.child.entryPoint)]

/-- The status with which the program ends after a faulty command line. -/
def ArgumentError.exitStatus : ArgumentError → UInt32
  | .aborted _ _ => 101
  | _ => 2

/-- The message about a command line. -/
def ArgumentError.message : ArgumentError → String
  | .unknown argument => "unexpected argument '" ++ argument ++ "' found"
  | .withoutValue flag => "a value is required for '--" ++ flag.name ++ "' but none was supplied"
  | .unreadable flag value => "invalid value '" ++ value ++ "' for '--" ++ flag.name ++ "'"
  | .aborted flag value => "cannot take value '" ++ value ++ "' for '--" ++ flag.name ++ "'"
  | .repeated flag => "the argument '--" ++ flag.name ++ "' cannot be used multiple times"
  | .missing flags =>
    "the following required arguments were not provided: " ++
      ", ".intercalate (flags.map fun flag => "--" ++ flag.name)

end EdgeAgent
