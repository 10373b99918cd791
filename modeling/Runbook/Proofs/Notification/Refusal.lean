import Runbook.Notification.Delivery
import Runbook.Proofs.Network.Wording

/-!
# Refusals

A channel that has its setting asks the network, and what it says of a failure are the words of that
failure. So it answers as if the setting were missing only when the network itself fails in just these
words.
-/

namespace Runbook

variable {σ : Type}

/-! ### Mail -/

namespace Mail

variable {network : Network σ} {account : Account} {recipients : List String}

theorem Header.failsOnly_field {name value : String} :
    FailsOnly network.Explains (Header.field name value) := by
  unfold Header.field
  dsimp only
  split
  · exact .error (.inr (by simp [Unmistakable, Failure.message, Failure.other]))
  · split
    · exact .error (.inr (by simp [Unmistakable, Failure.message, Failure.other]))
    · exact .ok _

theorem failsOnly_senderField {sender : Value} :
    FailsOnly network.Explains (senderField sender) := by
  unfold senderField
  split
  · exact .ok _
  · exact Header.failsOnly_field
  · refine .error (.inr ?_)
    simp only [Failure.message, Failure.other, toString_text]
    simp [Unmistakable]

theorem failsOnly_encodedContent {content : String} :
    FailsOnly network.Explains (encodedContent content) := by
  unfold encodedContent
  split
  · exact .ok _
  · split
    · next failure hfailure => exact .error (.inr (Failure.unmistakable_notUtf8? hfailure))
    · exact .ok _

theorem failsOnly_message {sender : Value} {subject content : String} :
    FailsOnly network.Explains (message sender recipients subject content) :=
  .bind failsOnly_encodedContent fun _ => .bind Header.failsOnly_field fun _ =>
    .bind failsOnly_senderField fun _ => .bind Header.failsOnly_field fun _ => .pure _

open Dialogue

theorem raisesOnly_command (command : MailCommand) :
    (network.mail command).RaisesOnly network.Explains :=
  fun world _ hraised => .inl (.inr ⟨command, world, hraised⟩)

theorem raisesOnly_transfer {text : Except Failure String}
    (htext : FailsOnly network.Explains text) :
    (transfer network account recipients text).RaisesOnly network.Explains := by
  have hsent : RaisesOnly network.Explains
      (ofExcept text >>= fun text => network.mail (.send account.sender recipients text)) :=
    .bind (raisesOnly_ofExcept htext) fun _ => raisesOnly_command _
  unfold transfer
  dsimp only
  -- The session may be secured first, and then credentials may be shown.
  split
  · split
    · exact .bind (raisesOnly_command _) fun _ => .bind (raisesOnly_command _) fun _ => hsent
    · exact .bind (raisesOnly_command _) fun _ => hsent
  · split
    · exact .bind (raisesOnly_command _) fun _ => hsent
    · exact hsent

theorem raisesOnly_send {text : Except Failure String} (htext : FailsOnly network.Explains text) :
    (send network account recipients text).RaisesOnly network.Explains :=
  .bind (raisesOnly_command _) fun _ =>
    .bind_of_gives (raisesOnly_attempt _) (raisesOnly_transfer htext).gives_attempt fun _ houtcome =>
      .bind (raisesOnly_command _) fun _ => raisesOnly_ofExcept houtcome

end Mail

/-! ### Deliveries -/

namespace Channel

variable {network : Network σ} {notification : Notification} {fields : Value.Fields}

open Dialogue

theorem failsOnly_address {url : Value} : FailsOnly network.Explains (address url) := by
  unfold address
  split
  · exact .ok _
  · refine .error (.inr ?_)
    simp only [Failure.message, Failure.other, toString_text]
    simp [Unmistakable]

theorem raisesOnly_postAll {url : Value} (targets : List (Option String)) {cookies : CookieStore} :
    (postAll network url notification targets cookies).RaisesOnly network.Explains := by
  induction targets generalizing cookies with
  | nil => exact raisesOnly_pure ()
  | cons target rest ih =>
    exact .bind (raisesOnly_ofExcept failsOnly_address) fun _ =>
      .bind Session.raisesOnly_post fun _ =>
        .bind (raisesOnly_ofExcept Session.failsOnly_requireSuccess) fun _ => ih

theorem raisesOnly_postSms {url : Value} :
    (postSms network url fields notification).RaisesOnly network.Explains :=
  .bind (raisesOnly_ofExcept failsOnly_address) fun _ =>
    .bind Session.raisesOnly_post fun _ =>
      .bind (raisesOnly_ofExcept Session.failsOnly_requireSuccess) fun _ => raisesOnly_pure _

/-- The texts that answer a notification when the setting of its channel is missing. -/
def lackedSettings : List String := ["No Slack webhook URL configured", "No SMS gateway configured"]

theorem not_mem_lackedSettings {text : String} (h : Unmistakable text) : text ∉ lackedSettings := by
  intro hmem
  simp only [lackedSettings, List.mem_cons, List.not_mem_nil, or_false] at hmem
  rcases hmem with rfl | rfl <;> exact h (by simp)

/-- Whether an answer does not say that a setting is missing, unless the network fails in just these
words. -/
def BlamesNoSetting (network : Network σ) (ack : Acknowledgement) : Prop :=
  ∀ text ∈ lackedSettings, ack.delivery = .undelivered text →
    ∃ failure, network.Raises failure ∧ failure.message = text

theorem gives_acknowledge {channel : Channel} {recipients : List String} {title : String}
    {attempt : Dialogue σ String} (hattempt : attempt.RaisesOnly network.Explains) :
    (acknowledge network channel recipients title attempt).Gives (BlamesNoSetting network) := by
  unfold acknowledge
  refine .bind hattempt.gives_attempt fun result hresult => ?_
  cases result with
  | ok message => exact gives_bind fun now => gives_pure nofun
  | error failure =>
    refine gives_bind fun _ => gives_pure fun text htext hdelivery => ?_
    obtain rfl := Delivery.undelivered.inj hdelivery
    obtain hraised | hown := hresult failure rfl
    · exact ⟨failure, hraised, rfl⟩
    · exact absurd htext (not_mem_lackedSettings hown)

theorem gives_refuse {channel : Channel} {recipients : List String} {error : String}
    (herror : error ∉ lackedSettings) :
    (refuse channel recipients error : Dialogue σ Acknowledgement).Gives (BlamesNoSetting network) := by
  refine gives_pure fun text htext hdelivery => ?_
  obtain rfl := Delivery.undelivered.inj hdelivery
  exact absurd htext herror

/-- A channel that has its setting does not say that it is missing. -/
theorem gives_deliver {channel : Channel}
    (hset : (setting? fields channel.requiredSetting).isSome) :
    (deliver network channel fields notification).Gives (BlamesNoSetting network) := by
  obtain ⟨url, hurl⟩ := Option.isSome_iff_exists.mp hset
  cases channel with
  | email =>
    unfold deliver
    dsimp only
    split
    · exact gives_refuse (by decide)
    · exact gives_acknowledge
        (.bind (Mail.raisesOnly_send Mail.failsOnly_message) fun _ => raisesOnly_pure _)
  | slack =>
    have hurl : setting? fields "webhook_url" = some url := hurl
    simp only [deliver, hurl]
    exact gives_acknowledge (.bind (raisesOnly_postAll _) fun _ => raisesOnly_pure _)
  | sms =>
    have hurl : setting? fields "gateway_url" = some url := hurl
    simp only [deliver, hurl]
    split
    · exact gives_refuse (by decide)
    · exact gives_acknowledge (.bind raisesOnly_postSms fun _ => raisesOnly_pure _)

end Channel

end Runbook
