import GatewayOperator.Metrics
import GatewayOperator.Url.Encoding

/-!
# Probes

The operator answers three paths: when it last looked at an object, that it is healthy, and its
metrics. Only reading them is supported, and a query does not matter. In a path, escapes stand for the
characters they denote, except for the percent sign, the slash and the plus sign.
-/

set_option autoImplicit false

namespace GatewayOperator.Probe

/-- What a probe can ask for. -/
inductive Page where
  | lastEvent
  | health
  | metrics
  deriving DecidableEq, Repr

/-- A path with its escapes resolved. -/
def resolve : List Char → List UInt8
  | [] => []
  | '%' :: a :: b :: rest =>
    match Text.hexValue? a, Text.hexValue? b with
    | some high, some low =>
      let n := high * 16 + low
      if n ∈ [0x25, 0x2F, 0x2B] then Text.utf8 (String.ofList ['%', a, b]) ++ resolve rest
      else UInt8.ofNat n :: resolve rest
    | _, _ => 0x25 :: resolve (a :: b :: rest)
  | c :: rest => String.utf8EncodeChar c ++ resolve rest

/-- The page under a path. -/
def Page.ofPath? (path : String) : Option Page :=
  match Text.Utf8.readLossy (resolve (path.toList.takeWhile fun c => c ≠ '?' && c ≠ '#')) with
  | "/" => some .lastEvent
  | "/health" => some .health
  | "/metrics" => some .metrics
  | _ => none

/-- The page that a request asks for. -/
def page? (method path : String) : Option Page :=
  if method = "GET" then Page.ofPath? path else none

end GatewayOperator.Probe
