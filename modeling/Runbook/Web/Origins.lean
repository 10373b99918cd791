import Runbook.Text.Blank
import Runbook.Web.Message

/-!
Which sites may send requests through a browser. A browser asks first by a preflight, and lets a
script see an answer only when the answer names its origin.
-/

namespace Runbook.Web

structure OriginPolicy where
  /-- The origins that are admitted; `*` stands for all. -/
  origins : List String
deriving Repr

namespace OriginPolicy

def methods : List String := ["GET", "POST", "OPTIONS"]

/-- The headers that a request may carry, those that are always safe among them. -/
def headers : List String := [
  "Accept", "Accept-Language", "Content-Language", "Content-Type", "apikey", "authorization",
  "content-type", "x-client-info", "x-request-id"]

/-- How long a browser may rely on the answer to a preflight, in seconds. -/
def lifetime : Nat := 600

def admitsAll (policy : OriginPolicy) : Bool :=
  policy.origins.contains "*"

def admits (policy : OriginPolicy) (origin : String) : Bool :=
  policy.admitsAll || policy.origins.contains origin

/-- The origin to name in an answer, if it is admitted. -/
def named? (policy : OriginPolicy) (origin : String) : Option String :=
  if policy.admitsAll then some "*"
  else if policy.origins.contains origin then some origin
  else none

theorem named?_isSome (policy : OriginPolicy) (origin : String) :
    (policy.named? origin).isSome = policy.admits origin := by
  unfold named? admits
  by_cases hall : policy.admitsAll = true
  · simp [hall]
  · by_cases horigin : origin ∈ policy.origins <;> simp [hall, horigin]

def admitsHeader (name : String) : Bool :=
  (headers.map String.toLower).contains (String.ofList (Text.trimBlank name.toLower.toList))

/-- What a preflight asks for and is not granted. -/
def objections (policy : OriginPolicy) (origin method : String) (request : Request) : List String :=
  (if policy.admits origin then [] else ["origin"])
    ++ (if methods.contains method then [] else ["method"])
    ++ (match request.header? "access-control-request-headers" with
      | some names => if (names.splitOn ",").all admitsHeader then [] else ["headers"]
      | none => [])
    ++ (if (request.header? "access-control-request-private-network").isSome
      then ["private-network"] else [])

def nameOrigin (policy : OriginPolicy) (origin : String) (answer : Answer) : Answer :=
  match policy.named? origin with
  | some named => answer.withHeader "access-control-allow-origin" named
  | none => answer

/-- The answer to a preflight for a request by the given method. -/
def preflight (policy : OriginPolicy) (origin method : String) (request : Request) : Answer :=
  let objections := policy.objections origin method request
  let answer := if objections.isEmpty then Answer.plain 200 "OK"
    else Answer.plain 400 ("Disallowed CORS " ++ ", ".intercalate objections)
  policy.nameOrigin origin (((answer
    |>.withHeader "vary" (", ".intercalate ["Origin", "Access-Control-Request-Method",
      "Access-Control-Request-Headers", "Access-Control-Request-Private-Network"]))
    |>.withHeader "access-control-allow-methods" (", ".intercalate methods))
    |>.withHeader "access-control-max-age" (toString lifetime)
    |>.withHeader "access-control-allow-headers" (", ".intercalate headers))

/-- Tells a browser whether a script of the request's origin may see the answer. -/
def mark (policy : OriginPolicy) (request : Request) (answer : Answer) : Answer :=
  let answer := answer.withHeader "vary" "Origin"
  match request.header? "origin" with
  | some origin => policy.nameOrigin origin answer
  | none => answer

end OriginPolicy

end Runbook.Web
