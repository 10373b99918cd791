import Runbook.Notification
import Runbook.Network.Session
import Runbook.Notification.Mail

/-!
Delivery of a notification through one channel. A delivery that fails is reported in the
acknowledgement and in the log; it raises nothing.
-/

namespace Runbook

namespace Channel

/-- The setting that a channel cannot do without. -/
def requiredSetting : Channel → String
  | .email => "smtp_host"
  | .slack => "webhook_url"
  | .sms => "gateway_url"

/-- A setting that is there and not empty. -/
def setting? (fields : Value.Fields) (key : String) : Option Value :=
  (Entries.get? fields key).filter fun v => !v.isNothing

/-- What is wrong with the settings of a channel, if anything. -/
def problem? (channel : Channel) (fields : Value.Fields) : Option String :=
  match setting? fields channel.requiredSetting with
  | some _ => none
  | none => some ("Missing " ++ channel.requiredSetting)

variable {σ : Type}

/-- The address that a setting holds. -/
def address : Value → Except Failure String
  | .string url => .ok url
  | v => .error (.other "TypeError" (s!"Invalid type for url.  Expected str or httpx.URL, got "
      ++ s!"<class '{v.kindName}'>: {v.showNested}"))

/-! ### Slack -/

/-- The message for one target; a header holds the subject, if there is one. -/
def slackPayload (notification : Notification) (target : Option String) : Value :=
  let body := Value.object [("type", .string "section"),
    ("text", .object [("type", .string "mrkdwn"), ("text", .string notification.content)])]
  let heading := Value.object [("type", .string "header"),
    ("text", .object [("type", .string "plain_text"), ("text", .string notification.subject)])]
  .object ([("text", .string notification.content),
      ("blocks", .list (if notification.subject.isEmpty then [body] else [heading, body]))]
    ++ match target with
      | some name => if name.isEmpty then [] else [("channel", .string name)]
      | none => [])

/-- The targets of a notification: its recipients, or the default target alone. -/
def slackTargets (recipients : List String) : List (Option String) :=
  if recipients.isEmpty then [none] else recipients.map some

/-- Posts to one target after another, up to the first that fails, in one session. -/
def postAll (network : Network σ) (url : Value) (notification : Notification) :
    List (Option String) → CookieStore → Dialogue σ Unit
  | [], _ => pure ()
  | target :: rest, cookies => do
    let received ← Session.post network cookies (← Dialogue.ofExcept (address url))
      (slackPayload notification target) [] (some (.int 10))
    Dialogue.ofExcept (received.response.requireSuccess received.address)
    postAll network url notification rest received.cookies

/-! ### SMS -/

def smsHeaders (fields : Value.Fields) : Entries String :=
  ("content-type", "application/json") :: match setting? fields "token" with
    | some token => [("authorization", "Bearer " ++ token.literal)]
    | none => []

/-- Posts the message once for all recipients and gives the status. -/
def postSms (network : Network σ) (url : Value) (fields : Value.Fields)
    (notification : Notification) : Dialogue σ Int := do
  let received ← Session.post network [] (← Dialogue.ofExcept (address url))
    (.object [("to", .strings notification.recipients), ("body", .string notification.content)])
    (smsHeaders fields) (some (.int 15))
  Dialogue.ofExcept (received.response.requireSuccess received.address)
  return received.response.status

/-! ### Acknowledgements -/

/-- The acknowledgement of an attempt, whose failure is logged under the given title. -/
def acknowledge (network : Network σ) (channel : Channel) (recipients : List String)
    (title : String) (attempt : Dialogue σ String) : Dialogue σ Acknowledgement := do
  match ← attempt.attempt with
  | .ok message =>
    let time ← Dialogue.look network.clock
    return { channel := channel.name, recipients, delivery := .delivered message time }
  | .error failure =>
    Dialogue.change (network.log .error (title ++ " send failed: " ++ failure.message))
    return { channel := channel.name, recipients, delivery := .undelivered failure.message }

def refuse (channel : Channel) (recipients : List String) (error : String) :
    Dialogue σ Acknowledgement :=
  pure { channel := channel.name, recipients, delivery := .undelivered error }

/-- Delivers a notification through a channel with the given settings. -/
def deliver (network : Network σ) (channel : Channel) (fields : Value.Fields)
    (notification : Notification) : Dialogue σ Acknowledgement :=
  let recipients := notification.recipients
  match channel with
  | .email =>
    if recipients.isEmpty then refuse .email [] "No email recipients"
    else acknowledge network .email recipients "Email" do
      let account := Mail.Account.ofFields fields
      Mail.send network account recipients
        (Mail.message account.sender recipients notification.subject notification.content)
      return "Email sent"
  | .slack => match setting? fields "webhook_url" with
    | none => refuse .slack recipients "No Slack webhook URL configured"
    | some url => acknowledge network .slack recipients "Slack" do
      postAll network url notification (slackTargets recipients) []
      return "Slack message sent"
  | .sms => match setting? fields "gateway_url" with
    | none => refuse .sms recipients "No SMS gateway configured"
    | some url =>
      if recipients.isEmpty then refuse .sms [] "No SMS recipients"
      else acknowledge network .sms recipients "SMS" do
        let status ← postSms network url fields notification
        return s!"SMS accepted (HTTP {status})"

end Channel

end Runbook
