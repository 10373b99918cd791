import Runbook.Network.Session
import Runbook.Text.Case

/-!
The client for calls to any address; each call is a session of its own.
-/

namespace Runbook

structure HttpClient where
  defaultTimeout : Option Number
  followsRedirects : Bool
deriving Repr

namespace HttpClient

variable {σ : Type}

/-- The given timeout, or the default in place of none and of zero. -/
def timeoutOr (timeout default : Option Number) : Option Number :=
  (timeout.filter fun seconds => !seconds.isZero).or default

def call (client : HttpClient) (network : Network σ) : Service σ HttpCall HttpAnswer :=
  fun call => do
    let now ← Dialogue.look network.clock
    let request ← Dialogue.ofExcept (Session.request now [] (Text.upper call.method) call.url
      call.headers (Session.textBody (call.body.getD "")) (timeoutOr call.timeout client.defaultTimeout))
    let received ← Session.send network client.followsRedirects Session.redirectLimit request []
    let body ← Dialogue.ofExcept received.response.value
    return {
      status := received.response.status
      body
      headers := Headers.ofEntries received.response.headers }

end HttpClient

end Runbook
