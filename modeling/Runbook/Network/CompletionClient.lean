import Runbook.Network.HttpClient

/-!
The client of the completion service, which is asked by posting the prompt to one address.
-/

namespace Runbook

structure CompletionClient where
  /-- The address of the service; empty when there is none. -/
  url : String
  key : String
  timeout : Option Number
deriving Repr

namespace CompletionClient

variable {σ : Type}

def isConfigured (client : CompletionClient) : Bool :=
  !client.url.isEmpty

def headers (client : CompletionClient) : Entries String :=
  ("content-type", "application/json") ::
    if client.key.isEmpty then [] else [("authorization", "Bearer " ++ client.key)]

/-- What is posted for a call, unless it contains itself. -/
def payload (call : CompletionCall) : Except Failure Value :=
  match call.user with
  | .value user => .ok (.object [("prompt", .string call.prompt),
      ("useCase", .optionalText call.useCase), ("userId", user),
      ("preferences", .object [("provider", .optionalText call.provider)])])
  | .whole => .error .circular

def complete (client : CompletionClient) (network : Network σ) : Service σ CompletionCall Value :=
  fun call => do
    if !client.isConfigured then
      Dialogue.raise (.completion 503 "AI processor URL not configured")
    else
      let payload ← Dialogue.ofExcept (payload call)
      let received ← Session.post network [] client.url payload client.headers
        (HttpClient.timeoutOr call.timeout client.timeout)
      if StatusCode.isSuccess received.response.status then
        Dialogue.ofExcept received.response.value
      else Dialogue.raise (.ofCompletionStatus received.response.status none)

end CompletionClient

end Runbook
