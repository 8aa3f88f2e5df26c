import GatewayOperator.Backoff
import GatewayOperator.Text.Decimal

/-!
# Settings

The operator is configured by seven flags. A flag is given on the command line as two arguments or
joined by an equals sign, or else by an environment variable, or else it has its fallback. Arguments
are settled from left to right: a flag that was given its value as an argument of its own is checked
only when the next flag starts, so a fault behind it can be noticed first.
-/

set_option autoImplicit false

namespace GatewayOperator

/-- What the operator is told at its start. -/
structure Settings where
  /-- The address of the metrics and health endpoints. -/
  listen : String
  /-- The class of the ingresses whose secrets are published. -/
  ingressClass : String
  /-- How long a request to a management API may take. -/
  requestTimeout : Span
  retryBase : Span
  retryMost : Span
  /-- The interval between drift checks. -/
  resync : Span
  /-- How many objects are reconciled at a time. -/
  concurrency : Nat
  deriving DecidableEq, Repr

namespace Settings

/-- The flags. -/
inductive Flag where
  | listen
  | ingressClass
  | requestTimeout
  | retryBase
  | retryMost
  | resync
  | concurrency
  deriving DecidableEq, Repr

/-- Why a command line gives no settings. -/
inductive UsageFault where
  | unknownArgument
  | missingValue
  | badValue
  | repeatedFlag
  | needlessValue
  /-- The user asked for the list of flags. -/
  | help
  deriving DecidableEq, Repr

namespace Flag

/-- All flags, in the order in which they are listed. -/
def all : List Flag :=
  [listen, ingressClass, requestTimeout, retryBase, retryMost, resync, concurrency]

/-- The name of a flag, without the two dashes. -/
def text : Flag → String
  | listen => "listen"
  | ingressClass => "ingress-class"
  | requestTimeout => "apim-timeout-secs"
  | retryBase => "retry-base-secs"
  | retryMost => "retry-max-secs"
  | resync => "resync-secs"
  | concurrency => "concurrency"

/-- The environment variable of a flag. -/
def environmentName : Flag → String
  | listen => "LISTEN_ADDRESS"
  | ingressClass => "INGRESS_CLASS"
  | requestTimeout => "APIM_TIMEOUT_SECS"
  | retryBase => "RETRY_BASE_SECS"
  | retryMost => "RETRY_MAX_SECS"
  | resync => "RESYNC_SECS"
  | concurrency => "RECONCILE_CONCURRENCY"

/-- The value of a flag that is given nowhere. -/
def fallback : Flag → String
  | listen => "0.0.0.0:8080"
  | ingressClass => "apim-gateway"
  | requestTimeout => "5"
  | retryBase => "1"
  | retryMost => "300"
  | resync => "600"
  | concurrency => "4"

/-- The flag of a name. -/
def ofText? (s : String) : Option Flag :=
  all.find? fun f => f.text = s

end Flag

/-- A number of seconds: decimal digits after an optional plus sign, below 2^64. -/
def readSeconds? (s : String) : Option Nat :=
  let digits := match s.toList with
    | '+' :: rest => rest
    | cs => cs
  (Text.readNat? digits).bind fun n => if n < 18446744073709551616 then some n else none

/-- A number of workers: decimal digits after an optional sign, from 0 to 65535. A minus sign is no
fault in front of zero. -/
def readCount? (s : String) : Option Nat :=
  match s.toList with
  | '-' :: digits => (Text.readNat? digits).bind fun n => if n = 0 then some 0 else none
  | _ => (readSeconds? s).bind fun n => if n < 65536 then some n else none

/-- Whether a flag takes a value. -/
def Flag.accepts (flag : Flag) (value : String) : Bool :=
  match flag with
  | .listen => true
  | .ingressClass => true
  | .concurrency => (readCount? value).isSome
  | _ => (readSeconds? value).isSome

/-- The values given so far. -/
abbrev Given := List (Flag × String)

/-- The value of a flag among the given ones. -/
def Given.find? (given : Given) (flag : Flag) : Option String :=
  (List.find? (fun entry => entry.1 = flag) given).map (·.2)

/-- A flag whose value is not settled: it waits for one, or has one that nobody has checked. -/
inductive Pending where
  | nothing
  | waiting (flag : Flag)
  | filled (flag : Flag) (value : String)

/-- The given values with one more: a flag is given once, with a value that it takes. -/
def settleValue (given : Given) (flag : Flag) (value : String) : Except UsageFault Given :=
  if (given.find? flag).isSome then .error .repeatedFlag
  else if flag.accepts value then .ok ((flag, value) :: given)
  else .error .badValue

/-- The given values with the pending one. -/
def settle (given : Given) : Pending → Except UsageFault Given
  | .nothing => .ok given
  | .waiting _ => .error .missingValue
  | .filled flag value => settleValue given flag value

/-- What an argument is by its form. -/
inductive Argument where
  /-- Two dashes alone: no flag follows. -/
  | flagsEnd
  | long (label : String) (value : Option String)
  | short (label : Char)
  | plain (value : String)

/-- The form of an argument. A dash alone is a plain value. -/
def Argument.ofText (s : String) : Argument :=
  match s.toList with
  | ['-', '-'] => .flagsEnd
  | '-' :: '-' :: rest =>
    .long (String.ofList (rest.takeWhile (· ≠ '=')))
      (match rest.dropWhile (· ≠ '=') with
        | [] => none
        | _ :: value => some (String.ofList value))
  | '-' :: c :: _ => .short c
  | _ => .plain s

/-- The values that the arguments give. -/
def readArguments (given : Given) (pending : Pending) : List String → Except UsageFault Given
  | [] => settle given pending
  | argument :: rest =>
    match Argument.ofText argument with
    | .flagsEnd => if rest = [] then settle given pending else .error .unknownArgument
    | .long label value =>
      if label = "help" then
        if value.isSome then .error .needlessValue else (settle given pending).bind fun _ => .error .help
      else
        match Flag.ofText? label, value with
        | none, _ => .error .unknownArgument
        | some flag, none =>
          match settle given pending with
          | .error fault => .error fault
          | .ok given => readArguments given (.waiting flag) rest
        | some flag, some value =>
          match (settle given pending).bind fun given => settleValue given flag value with
          | .error fault => .error fault
          | .ok given => readArguments given .nothing rest
    | .short label =>
      if label = 'h' then (settle given pending).bind fun _ => .error .help
      else .error .unknownArgument
    | .plain value =>
      match pending with
      | .waiting flag => readArguments given (.filled flag value) rest
      | _ => .error .unknownArgument

/-- The given values, completed from the environment. -/
def addEnvironment (environment : String → Option String) (given : Given) :
    List Flag → Except UsageFault Given
  | [] => .ok given
  | flag :: flags =>
    match given.find? flag, environment flag.environmentName with
    | none, some value =>
      match settleValue given flag value with
      | .error fault => .error fault
      | .ok given => addEnvironment environment given flags
    | _, _ => addEnvironment environment given flags

/-- The settings that the given values mean. -/
def ofGiven (given : Given) : Settings :=
  let value (flag : Flag) : String := (given.find? flag).getD flag.fallback
  let span (flag : Flag) : Span := Span.seconds ((readSeconds? (value flag)).getD 0)
  { listen := value .listen
    ingressClass := value .ingressClass
    requestTimeout := span .requestTimeout
    retryBase := span .retryBase
    retryMost := span .retryMost
    resync := span .resync
    concurrency := (readCount? (value .concurrency)).getD 0 }

/-- The settings that the arguments and the environment give. -/
def read (arguments : List String) (environment : String → Option String) :
    Except UsageFault Settings := do
  let given ← readArguments [] .nothing arguments
  let given ← addEnvironment environment given Flag.all
  return ofGiven given

end Settings

end GatewayOperator
