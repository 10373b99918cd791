import Mathlib.Data.List.Induction
import Mathlib.Data.List.Nodup
import Runbook.Notification.Manager
import Runbook.Proofs.Notification.Refusal

/-!
# Registrations and where notifications go

The manager is what the calls before have registered: each channel that was registered is listed once, in
the order of first registrations, and has the settings of its last registration. A notification goes to
the channel that it names, as it is, or it is answered without the network. Where all registrations come
from configurations, no channel ever says that its setting is missing.
-/

namespace Runbook

/-- A call that registers channels: one with its settings, or those of a configuration. -/
inductive ChannelCall where
  | register (channel : Channel) (fields : Value.Fields)
  | configure (config : Value.Fields)

namespace ChannelCall

/-- Whether each channel is configured with an object, if at all. -/
def HoldsObjects : ChannelCall → Prop
  | .register .. => True
  | .configure config => ∀ (channel : Channel) (settings : Value),
      Entries.get? config channel.name = some settings → ∃ fields, settings = .object fields

/-- What a configuration registers for a channel: the settings given for it, if they hold the one that
the channel cannot do without. -/
def configured? (config : Value.Fields) (channel : Channel) : Option (Channel × Value.Fields) :=
  match Entries.get? config channel.name with
  | some (.object fields) =>
    if (Channel.setting? fields channel.requiredSetting).isSome then some (channel, fields) else none
  | _ => none

/-- What a call registers, in order. -/
def registrations : ChannelCall → List (Channel × Value.Fields)
  | .register channel fields => [(channel, fields)]
  | .configure config => Channel.all.filterMap (configured? config)

theorem setting?_of_mem_configure {config : Value.Fields} {channel : Channel} {fields : Value.Fields}
    (h : (channel, fields) ∈ (configure config).registrations) :
    (Channel.setting? fields channel.requiredSetting).isSome := by
  obtain ⟨origin, -, horigin⟩ := List.mem_filterMap.mp h
  unfold configured? at horigin
  split at horigin
  · obtain ⟨hset, heq⟩ := Option.ite_none_right_eq_some.mp horigin
    obtain ⟨rfl, rfl⟩ := Prod.mk.inj (Option.some.inj heq)
    exact hset
  · cases horigin

end ChannelCall

namespace NotificationManager

variable {manager : NotificationManager} {registered : List (Channel × Value.Fields)}

/-- A manager after a call, which fails where a configuration cannot be read. -/
def perform (manager : NotificationManager) : ChannelCall → Except Failure NotificationManager
  | .register channel fields => .ok (manager.register channel fields)
  | .configure config => match manager.configure (.object config) with
    | (next, _, none) => .ok next
    | (_, _, some failure) => .error failure

/-- The manager after a history of calls, from one without channels. -/
def performAll (calls : List ChannelCall) : Except Failure NotificationManager :=
  calls.foldlM perform empty

def registerAll (manager : NotificationManager) (registered : List (Channel × Value.Fields)) :
    NotificationManager :=
  registered.foldl (fun manager entry => manager.register entry.1 entry.2) manager

theorem registerAll_append (manager : NotificationManager)
    (before after : List (Channel × Value.Fields)) :
    manager.registerAll (before ++ after) = (manager.registerAll before).registerAll after :=
  List.foldl_append

/-! ### What a call registers -/

theorem configureChannel_eq {config : Value.Fields} {channel : Channel} {fields : Value.Fields}
    (hfields : Entries.get? config channel.name = some (.object fields)) (state : Configured) :
    ∃ lines, configureChannel state channel (.object fields)
      = .ok (state.1.registerAll (ChannelCall.configured? config channel).toList, lines) := by
  unfold configureChannel Channel.problem? ChannelCall.configured?
  simp only [hfields]
  cases Channel.setting? fields channel.requiredSetting with
  | none => exact ⟨_, rfl⟩
  | some _ => exact ⟨_, rfl⟩

theorem configureAll_eq {config : Value.Fields}
    (hobjects : (ChannelCall.configure config).HoldsObjects) (channels : List Channel)
    (state : Configured) :
    ∃ lines, configureAll config channels state
      = .ok (state.1.registerAll (channels.filterMap (ChannelCall.configured? config)), lines) := by
  induction channels generalizing state with
  | nil => exact ⟨state.2, rfl⟩
  | cons channel rest ih =>
    cases hsettings : Entries.get? config channel.name with
    | none =>
      have hskipped : ChannelCall.configured? config channel = none := by
        simp only [ChannelCall.configured?, hsettings]
      simp only [configureAll, hsettings, List.filterMap_cons_none hskipped]
      exact ih state
    | some settings =>
      obtain ⟨fields, rfl⟩ := hobjects channel settings hsettings
      obtain ⟨lines, hone⟩ := configureChannel_eq hsettings state
      obtain ⟨more, hrest⟩ := ih
        (state.1.registerAll (ChannelCall.configured? config channel).toList, lines)
      refine ⟨more, ?_⟩
      -- The settings are registered or left out, and the rest follows either way.
      simp only [configureAll, hsettings, hone, Except.bind, hrest, List.filterMap_cons]
      cases ChannelCall.configured? config channel <;> rfl

theorem perform_eq {call : ChannelCall} (hobjects : call.HoldsObjects) :
    manager.perform call = .ok (manager.registerAll call.registrations) := by
  cases call with
  | register channel fields => rfl
  | configure config =>
    obtain ⟨lines, hall⟩ := configureAll_eq hobjects Channel.all (manager, [])
    simp only [perform, configure, hall]
    rfl

theorem performAll_eq {calls : List ChannelCall} (hobjects : ∀ call ∈ calls, call.HoldsObjects) :
    performAll calls = .ok (empty.registerAll (calls.flatMap ChannelCall.registrations)) := by
  unfold performAll
  generalize empty = manager
  induction calls generalizing manager with
  | nil => rfl
  | cons call rest ih =>
    rw [List.forall_mem_cons] at hobjects
    rw [List.foldlM_cons, perform_eq hobjects.1, List.flatMap_cons, registerAll_append]
    exact ih hobjects.2 _

/-! ### The channels of a manager -/

/-- What a manager holds after registrations. -/
structure Holds (manager : NotificationManager) (registered : List (Channel × Value.Fields)) :
    Prop where
  order : manager.channels.map (·.1) = (registered.map (·.1)).eraseDups
  nodup : (manager.channels.map (·.1)).Nodup
  latest : ∀ channel, manager.find? channel = registered.reverse.lookup channel

theorem isSome_find?_iff {channel : Channel} :
    (manager.find? channel).isSome ↔ channel ∈ manager.channels.map (·.1) := by
  simp [find?, List.lookup_isSome_iff]

theorem names_register (channel : Channel) (fields : Value.Fields) :
    (manager.register channel fields).channels.map (·.1)
      = if channel ∈ manager.channels.map (·.1) then manager.channels.map (·.1)
        else manager.channels.map (·.1) ++ [channel] := by
  unfold register
  simp only [isSome_find?_iff]
  split
  · rw [List.map_map]
    refine List.map_congr_left fun entry _ => ?_
    by_cases hentry : entry.1 = channel <;> simp [hentry]
  · simp

theorem lookup_cons_eq_ite (channel : Channel) (fields : Value.Fields) (other : Channel)
    (rest : List (Channel × Value.Fields)) :
    ((channel, fields) :: rest).lookup other
      = if other = channel then some fields else rest.lookup other := by
  rw [List.lookup_cons]
  cases hother : other == channel
  · rw [if_neg (beq_eq_false_iff_ne.mp hother)]
  · rw [if_pos (eq_of_beq hother)]

theorem lookup_replaced (channel : Channel) (fields : Value.Fields) (other : Channel)
    (channels : List (Channel × Value.Fields)) :
    (channels.map fun entry => if entry.1 == channel then (channel, fields) else entry).lookup other
      = (channels.lookup other).map fun before => if other = channel then fields else before := by
  induction channels with
  | nil => rfl
  | cons entry rest ih =>
    obtain ⟨name, held⟩ := entry
    rw [List.map_cons, lookup_cons_eq_ite name held]
    by_cases hname : name = channel
    · subst hname
      rw [if_pos (beq_self_eq_true _), lookup_cons_eq_ite, ih]
      by_cases hother : other = name <;> simp [hother]
    · rw [if_neg (by simpa using hname), lookup_cons_eq_ite, ih]
      by_cases hother : other = name <;> simp [hother, hname]

theorem find?_register (channel : Channel) (fields : Value.Fields) (other : Channel) :
    (manager.register channel fields).find? other
      = if other = channel then some fields else manager.find? other := by
  -- A channel that is there is replaced in its place, another one comes last.
  by_cases hfound : (manager.find? channel).isSome
  · have hregister : (manager.register channel fields).find? other
        = (manager.find? other).map fun before => if other = channel then fields else before := by
      rw [find?, register, if_pos hfound]
      exact lookup_replaced channel fields other manager.channels
    rw [hregister]
    split
    · next hother =>
      obtain ⟨before, hbefore⟩ := Option.isSome_iff_exists.mp hfound
      rw [hother, hbefore]
      rfl
    · exact Option.map_id'
  · have hregister : (manager.register channel fields).find? other
        = (manager.find? other).or (if other = channel then some fields else none) := by
      rw [find?, register, if_neg hfound, List.lookup_append, lookup_cons_eq_ite]
      rfl
    rw [hregister]
    split
    · next hother =>
      rw [hother, Option.not_isSome_iff_eq_none.mp hfound, Option.none_or]
    · exact Option.or_none

theorem Holds.register (h : manager.Holds registered) (channel : Channel) (fields : Value.Fields) :
    (manager.register channel fields).Holds (registered ++ [(channel, fields)]) where
  order := by
    rw [names_register, h.order, List.map_append, List.map_singleton, Entries.eraseDups_concat]
    simp only [List.mem_eraseDups]
  nodup := by
    rw [names_register]
    split
    · exact h.nodup
    · next hfresh => exact List.nodup_append.mpr ⟨h.nodup, by simp, by grind⟩
  latest other := by
    rw [find?_register, List.reverse_append, List.reverse_singleton, List.singleton_append,
      lookup_cons_eq_ite, h.latest]

theorem holds_registerAll (registered : List (Channel × Value.Fields)) :
    (empty.registerAll registered).Holds registered := by
  induction registered using List.reverseRecOn with
  | nil => exact ⟨rfl, .nil, fun _ => rfl⟩
  | append_singleton before last ih =>
    rw [registerAll_append]
    exact ih.register last.1 last.2

theorem setting?_of_latest {calls : List ChannelCall} {channel : Channel} {fields : Value.Fields}
    (hconfigured : ∀ call ∈ calls, ∃ config, call = .configure config)
    (hlatest : (calls.flatMap ChannelCall.registrations).reverse.lookup channel = some fields) :
    (Channel.setting? fields channel.requiredSetting).isSome := by
  obtain ⟨before, after, hsplit, -⟩ := List.lookup_eq_some_iff.mp hlatest
  have hmem : (channel, fields) ∈ (calls.flatMap ChannelCall.registrations).reverse := by
    rw [hsplit]
    exact List.mem_append_right _ List.mem_cons_self
  obtain ⟨call, hcall, hregistered⟩ := List.mem_flatMap.mp (List.mem_reverse.mp hmem)
  obtain ⟨config, rfl⟩ := hconfigured call hcall
  exact ChannelCall.setting?_of_mem_configure hregistered

/-! ### Where notifications go -/

/-- How a manager routes after registrations. It lists each registered channel once, in the order of
first registrations. A notification for a registered channel is delivered as it is, with the settings
registered last; a name without a channel is answered and nothing else happens. -/
structure Routes (manager : NotificationManager) (registered : List (Channel × Value.Fields)) :
    Prop where
  listed : manager.configuredChannels = (registered.map (·.1)).eraseDups.map Channel.name
  once : manager.configuredChannels.Nodup
  delivered : ∀ channel fields, registered.reverse.lookup channel = some fields →
    ∀ {σ : Type} (network : Network σ) (notification : Notification),
      notification.channel = channel.name →
      manager.send network notification = do
        let ack ← channel.deliver network fields notification
        let (level, line) := reportLine notification ack.delivery
        Dialogue.change (network.log level line)
        return ack
  unregistered : ∀ channel, channel ∉ registered.map (·.1) →
    ∀ {σ : Type} (network : Network σ) (notification : Notification),
      notification.channel = channel.name →
      manager.send network notification = pure {
        channel := notification.channel
        recipients := notification.recipients
        delivery := .undelivered ("Channel not configured: " ++ notification.channel) }
  unsupported : ∀ {σ : Type} (network : Network σ) (notification : Notification),
    (∀ channel : Channel, notification.channel ≠ channel.name) →
      manager.send network notification = pure {
        channel := notification.channel
        recipients := notification.recipients
        delivery := .undelivered ("Unsupported notification channel: " ++ notification.channel) }

theorem name_injective : Function.Injective Channel.name := by
  intro first second heq
  rw [← Option.some.injEq, ← Channel.ofName?_name first, heq, Channel.ofName?_name]

theorem Holds.routes (h : manager.Holds registered) : manager.Routes registered where
  listed := by
    rw [← h.order, List.map_map]
    rfl
  once := by
    have hnames : manager.configuredChannels = (manager.channels.map (·.1)).map Channel.name := by
      rw [List.map_map]
      rfl
    rw [hnames]
    exact h.nodup.map name_injective
  delivered channel fields hlatest σ network notification hname := by
    have hchannel : Channel.ofName? notification.channel = some channel :=
      hname ▸ Channel.ofName?_name channel
    unfold send
    simp only [hchannel, h.latest, hlatest]
  unregistered channel hfresh σ network notification hname := by
    have hchannel : Channel.ofName? notification.channel = some channel :=
      hname ▸ Channel.ofName?_name channel
    have hnone : manager.find? channel = none := by
      rw [← Option.not_isSome_iff_eq_none, isSome_find?_iff, h.order, List.mem_eraseDups]
      exact hfresh
    unfold send
    simp only [hchannel, hnone]
    rfl
  unsupported network notification hname := by
    have hnone : Channel.ofName? notification.channel = none := by
      refine List.find?_eq_none.mpr fun channel _ hfound => ?_
      exact hname channel (eq_of_beq hfound).symm
    unfold send
    rw [hnone]
    rfl

theorem gives_unsent {σ : Type} {network : Network σ} {notification : Notification} {problem : String}
    (hproblem : Unmistakable (problem ++ ": " ++ notification.channel)) :
    (unsent notification problem : Dialogue σ Acknowledgement).Gives
      (Channel.BlamesNoSetting network) := by
  refine Dialogue.gives_pure fun text htext hdelivery => ?_
  obtain rfl := Delivery.undelivered.inj hdelivery
  exact absurd htext (Channel.not_mem_lackedSettings hproblem)

theorem Holds.gives_send (h : manager.Holds registered)
    (hset : ∀ channel fields, registered.reverse.lookup channel = some fields →
      (Channel.setting? fields channel.requiredSetting).isSome)
    {σ : Type} (network : Network σ) (notification : Notification) :
    (manager.send network notification).Gives (Channel.BlamesNoSetting network) := by
  unfold send
  split
  · exact gives_unsent (by simp [Unmistakable])
  · next channel _ =>
    split
    · exact gives_unsent (by simp [Unmistakable])
    · next fields hfields =>
      rw [h.latest] at hfields
      refine (Channel.gives_deliver (hset channel fields hfields)).bind fun ack hack => ?_
      exact Dialogue.gives_bind fun _ => Dialogue.gives_pure hack

/-- **Notifications go where the history of registrations says.** Configurations that hold objects cannot
fail, and where all registrations come from configurations no answer says that a setting is missing. -/
theorem routes_by_registration_history {calls : List ChannelCall}
    (hobjects : ∀ call ∈ calls, call.HoldsObjects) :
    ∃ manager, performAll calls = .ok manager ∧
      manager.Routes (calls.flatMap ChannelCall.registrations) ∧
      ((∀ call ∈ calls, ∃ config, call = .configure config) →
        ∀ {σ : Type} (network : Network σ) (notification : Notification),
          (manager.send network notification).Gives (Channel.BlamesNoSetting network)) := by
  have hholds := holds_registerAll (calls.flatMap ChannelCall.registrations)
  refine ⟨_, performAll_eq hobjects, hholds.routes, fun hconfigured σ network notification => ?_⟩
  exact hholds.gives_send (fun _ _ => setting?_of_latest hconfigured) network notification

end NotificationManager

namespace Sample

/-- Two configurations, the second of which gives no address for a channel that the first one
registers. -/
def reconfigured : List ChannelCall := [
  .configure [("slack", .object [("webhook_url", .string "http://hook")]), ("sms", .object [])],
  .configure [("email", .object [("smtp_host", .string "post")]), ("slack", .object [])]]

/-- The webhook of the first configuration stays, and a channel that was never registered takes
nothing. -/
theorem reconfigured_routes :
    (∀ call ∈ reconfigured, call.HoldsObjects) ∧
      (∀ call ∈ reconfigured, ∃ config, call = .configure config) ∧
      ∃ manager, NotificationManager.performAll reconfigured = .ok manager ∧
        manager.configuredChannels = ["slack", "email"] ∧
        ∀ {σ : Type} (network : Network σ) (notification : Notification),
          (notification.channel = "slack" →
            manager.send network notification = do
              let ack ← Channel.slack.deliver network [("webhook_url", .string "http://hook")]
                notification
              let (level, line) := NotificationManager.reportLine notification ack.delivery
              Dialogue.change (network.log level line)
              return ack) ∧
          (notification.channel = "sms" →
            manager.send network notification = pure {
              channel := "sms"
              recipients := notification.recipients
              delivery := .undelivered "Channel not configured: sms" }) ∧
          (manager.send network notification).Gives (Channel.BlamesNoSetting network) := by
  have hobjects : ∀ call ∈ reconfigured, call.HoldsObjects := by
    rw [reconfigured, List.forall_mem_cons, List.forall_mem_singleton]
    constructor <;> rintro (_ | _ | _) settings ⟨⟩ <;> exact ⟨_, rfl⟩
  have hconfigured : ∀ call ∈ reconfigured, ∃ config, call = .configure config := by
    rw [reconfigured, List.forall_mem_cons, List.forall_mem_singleton]
    exact ⟨⟨_, rfl⟩, ⟨_, rfl⟩⟩
  obtain ⟨manager, hmanager, hroutes, hanswers⟩ :=
    NotificationManager.routes_by_registration_history hobjects
  refine ⟨hobjects, hconfigured, manager, hmanager, hroutes.listed, fun network notification =>
    ⟨fun hname => hroutes.delivered .slack _ rfl network notification hname, fun hname => ?_,
      hanswers hconfigured network notification⟩⟩
  rw [hroutes.unregistered .sms (by decide) network notification hname, hname]
  rfl

end Sample

end Runbook
