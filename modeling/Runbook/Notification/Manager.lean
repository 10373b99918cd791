import Runbook.Notification.Delivery

/-!
The manager keeps the channels that are configured and sends each notification through the one that
it names.
-/

namespace Runbook

/-- The registered channels with their settings, in the order of their first registration. -/
structure NotificationManager where
  channels : List (Channel × Value.Fields)
deriving Repr

namespace NotificationManager

def empty : NotificationManager := ⟨[]⟩

def find? (manager : NotificationManager) (channel : Channel) : Option Value.Fields :=
  manager.channels.lookup channel

/-- Registers a channel; one that replaces another keeps its place. -/
def register (manager : NotificationManager) (channel : Channel) (fields : Value.Fields) :
    NotificationManager :=
  { channels :=
      if (manager.find? channel).isSome then
        manager.channels.map fun entry => if entry.1 == channel then (channel, fields) else entry
      else manager.channels ++ [(channel, fields)] }

/-- The state of a configuration under way: the manager and the lines to log. -/
abbrev Configured := NotificationManager × List (Level × String)

/-- Registers a channel with the settings given for it, unless something is wrong with them. -/
def configureChannel (state : Configured) (channel : Channel) (settings : Value) :
    Except (Configured × Failure) Configured :=
  match settings with
  | .object fields => match channel.problem? fields with
    | none => .ok (state.1.register channel fields,
        state.2 ++ [(.info, s!"Notification channel registered: {channel.name}")])
    | some problem => .ok (state.1,
        state.2 ++ [(.warning, s!"Notification channel {channel.name} not registered: {problem}")])
  | v => .error (state, .other "AttributeError" s!"'{v.kindName}' object has no attribute 'get'")

def configureAll (config : Value.Fields) :
    List Channel → Configured → Except (Configured × Failure) Configured
  | [], state => .ok state
  | channel :: rest, state => match Entries.get? config channel.name with
    | some settings => (configureChannel state channel settings).bind (configureAll config rest)
    | none => configureAll config rest state

/-- The failure to look a channel up in settings that are no object; there is none as long as they do
not mention one. -/
def lookupFailure? : Value → Option Failure
  | .object _ => none
  | .string s =>
    if Channel.all.any fun channel => Text.occursIn channel.name.toList s.toList
    then some (.other "TypeError" "string indices must be integers, not 'str'") else none
  | .list items =>
    if Channel.all.any fun channel => items.contains (.string channel.name)
    then some (.other "TypeError" "list indices must be integers or slices, not str") else none
  | v => some (.other "TypeError" s!"argument of type '{v.kindName}' is not iterable")

/-- Configures the channels that are mentioned, one kind after another. What was registered before a
failure stays. -/
def configure (manager : NotificationManager) (config : Value) :
    NotificationManager × List (Level × String) × Option Failure :=
  match config with
  | .object fields => match configureAll fields Channel.all (manager, []) with
    | .ok (manager, lines) => (manager, lines, none)
    | .error ((manager, lines), failure) => (manager, lines, some failure)
  | v => (manager, [], lookupFailure? v)

def configuredChannels (manager : NotificationManager) : List String :=
  manager.channels.map (·.1.name)

variable {σ : Type}

/-- The answer for a notification that no channel takes. -/
def unsent (notification : Notification) (problem : String) : Dialogue σ Acknowledgement :=
  pure { channel := notification.channel, recipients := notification.recipients
         delivery := .undelivered (problem ++ ": " ++ notification.channel) }

def reportLine (notification : Notification) : Delivery → Level × String
  | .delivered .. =>
    let names := ", ".intercalate notification.recipients
    (.info, s!"Notification sent via {notification.channel} to "
      ++ if names.isEmpty then "default" else names)
  | .undelivered error => (.warning, s!"Notification failed via {notification.channel}: {error}")

def send (manager : NotificationManager) (network : Network σ) :
    Service σ Notification Acknowledgement := fun notification =>
  match Channel.ofName? notification.channel with
  | none => unsent notification "Unsupported notification channel"
  | some channel => match manager.find? channel with
    | none => unsent notification "Channel not configured"
    | some fields => do
      let ack ← channel.deliver network fields notification
      let (level, line) := reportLine notification ack.delivery
      Dialogue.change (network.log level line)
      return ack

end NotificationManager

end Runbook
