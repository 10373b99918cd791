import Runbook.Network.Exchange
import Runbook.Notification.Mail.Header

/-!
Mail messages as text, and the session that sends one.
-/

namespace Runbook.Mail

/-- The text with every line break written as one line feed. -/
def plainBreaks : List Char → List Char
  | '\r' :: '\n' :: rest => '\n' :: plainBreaks rest
  | '\r' :: rest => '\n' :: plainBreaks rest
  | c :: rest => c :: plainBreaks rest
  | [] => []

/-- The headers that say how the content is written, and the content so written: as it is when it is
ASCII, else encoded. -/
def encodedContent (content : String) : Except Failure (String × String × String) :=
  if content.toList.all Headers.isAscii then
    .ok ("us-ascii", "7bit", String.ofList (plainBreaks content.toList))
  else match Failure.notUtf8? content with
    | some failure => .error failure
    | none => .ok ("utf-8", "base64", Text.Base64.lines (Text.Utf8.encode content))

/-- The field that names the sender, who may be nobody but must not be anything other than a text. -/
def senderField : Value → Except Failure String
  | .null => .ok "From: \n"
  | .string sender => Header.field "From" sender
  | v => .error (.other "AttributeError" s!"'{v.kindName}' object has no attribute 'encode'")

/-- The text of a message. -/
def message (sender : Value) (recipients : List String) (subject content : String) :
    Except Failure String := do
  let (charset, encoding, body) ← encodedContent content
  let subject ← Header.field "Subject" subject
  let sender ← senderField sender
  let recipients ← Header.field "To" (", ".intercalate recipients)
  return s!"Content-Type: text/plain; charset=\"{charset}\"\nMIME-Version: 1.0\n"
    ++ s!"Content-Transfer-Encoding: {encoding}\n" ++ subject ++ sender ++ recipients ++ "\n" ++ body

/-- Where mail goes and in whose name. -/
structure Account where
  host : Value
  port : Value
  secured : Bool
  credentials : Option (Value × Value)
  sender : Value
deriving Repr

def Account.ofFields (fields : Value.Fields) : Account :=
  let get (key : String) (default : Value) := (Entries.get? fields key).getD default
  let user := get "smtp_user" .null
  let password := get "smtp_password" .null
  { host := get "smtp_host" (.string "localhost")
    port := get "smtp_port" (.int 587)
    secured := !(get "use_tls" (.bool true)).isNothing
    credentials := if user.isNothing || password.isNothing then none else some (user, password)
    sender := get "from_address" (.string "workflows@localhost") }

variable {σ : Type}

/-- What is done once the session stands; the message is written when it is its turn. -/
def transfer (network : Network σ) (account : Account) (recipients : List String)
    (message : Except Failure String) : Dialogue σ Unit := do
  if account.secured then network.mail .startTls
  match account.credentials with
  | some (user, password) => network.mail (.login user password)
  | none => pure ()
  let message ← Dialogue.ofExcept message
  network.mail (.send account.sender recipients message)

/-- Sends a message in a session of its own, which is closed whatever happens in it. -/
def send (network : Network σ) (account : Account) (recipients : List String)
    (message : Except Failure String) : Dialogue σ Unit := do
  network.mail (.connect account.host account.port)
  let outcome ← (transfer network account recipients message).attempt
  network.mail .quit
  Dialogue.ofExcept outcome

end Runbook.Mail
