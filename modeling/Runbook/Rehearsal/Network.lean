import Runbook.Network.Exchange
import Runbook.Rehearsal

/-!
A network that acts by script and keeps what it was asked.
-/

namespace Runbook

structure ScriptedNetwork where
  responses : Script WireResponse
  /-- The kind of mail command that fails, with its failure. -/
  mailFault : Option (String × Failure)
  now : Instant
  requests : List WireRequest
  mail : List MailCommand
  lines : List (Level × String)

def MailCommand.kind : MailCommand → String
  | .connect .. => "connect"
  | .startTls => "starttls"
  | .login .. => "login"
  | .send .. => "sendmail"
  | .quit => "quit"

namespace ScriptedNetwork

def exchange : Service ScriptedNetwork WireRequest WireResponse := fun request world =>
  let (reply, responses) := world.responses.next
  (reply, { world with responses, requests := world.requests ++ [request] })

def mailService : Service ScriptedNetwork MailCommand Unit := fun command world =>
  let world := { world with mail := world.mail ++ [command] }
  match world.mailFault with
  | some (kind, failure) =>
    if kind == command.kind then (.raised failure, world) else (.answered (), world)
  | none => (.answered (), world)

def network : Network ScriptedNetwork where
  exchange := exchange
  mail := mailService
  clock world := world.now
  log level line world := { world with lines := world.lines ++ [(level, line)] }

/-- A response as it comes from the network: a body that is not empty has a length. Headers that are
no ASCII do not come through. -/
def response (status : Int) (headers : List (String × String)) (body : String) :
    Behaviour WireResponse :=
  match Headers.check headers with
  | .error failure => .raise failure
  | .ok () =>
    let headers := headers.map fun header => (header.1.toLower, header.2)
    let body := Text.Utf8.encode body
    .answer {
      status
      headers := if body.isEmpty || headers.any (·.1 == "content-length") then headers
        else headers ++ [("content-length", toString body.length)]
      body }

end ScriptedNetwork

end Runbook
