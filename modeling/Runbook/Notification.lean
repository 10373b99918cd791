import Runbook.Instant

/-!
Notifications and the answers to them.
-/

namespace Runbook

inductive Channel where
  | email
  | slack
  | sms
deriving DecidableEq, Repr

namespace Channel

def all : List Channel := [.email, .slack, .sms]

def name : Channel → String
  | .email => "email"
  | .slack => "slack"
  | .sms => "sms"

def ofName? (name : String) : Option Channel :=
  all.find? fun channel => channel.name == name

theorem ofName?_name (channel : Channel) : ofName? channel.name = some channel := by
  cases channel <;> decide

end Channel

/-- A notification with its texts filled in. -/
structure Notification where
  channel : String
  recipients : List String
  subject : String
  content : String
deriving Repr, BEq, DecidableEq

inductive Delivery where
  | delivered (message : String) (time : Instant)
  | undelivered (error : String)
deriving Repr, DecidableEq

/-- What became of a notification. -/
structure Acknowledgement where
  channel : String
  recipients : List String
  delivery : Delivery
deriving Repr, DecidableEq

end Runbook
