import Mathlib.Data.List.Forall2
import Runbook.Notification.Delivery
import Runbook.Proofs.Json.Reader
import Runbook.Proofs.Network.Session

/-!
# Posts through a webhook

A notification for Slack goes out as one post for each target, in order, up to the first post that is not
accepted or cannot be written. The acknowledgement says what came of them: it is a success exactly if all
posts were made and accepted, else it tells the failure of the last one.
-/

namespace Runbook

/-- A status of success. A body that cannot be unpacked never arrives: that is a failure of the
transport, whatever the status. -/
def WireResponse.IsAccepting (response : WireResponse) : Prop :=
  StatusCode.isSuccess response.status = true ∧ ∃ read, response.unpacked = .ok read

def Reply.Accepts (reply : Reply WireResponse) : Prop :=
  ∃ response, reply = .answered response ∧ response.IsAccepting

/-- Settings that hold a complete address to post to. -/
structure Webhook (fields : Value.Fields) where
  text : String
  address : Address
  given : Entries.get? fields "webhook_url" = some (.string text)
  read : Address.ofText text = .ok address
  complete : address.isAbsolute = true

namespace Channel

variable {σ : Type} {notification : Notification} {address : Address} {fields : Value.Fields}

/-! ### Messages -/

/-- Whether a block of a message is of the type, and holds the text. -/
def IsBlock (type text : String) (block : Value) : Prop :=
  block.field? "type" = some (.string type) ∧
    (block.field? "text").bind (·.field? "text") = some (.string text)

/-- What the message of a notification for a target says: all of the content, the subject in a header if
there is one, and the target if it has a name. -/
structure IsMessage (notification : Notification) (target : Option String) (message : Value) :
    Prop where
  text : message.field? "text" = some (.string notification.content)
  blocks : ∃ blocks, message.field? "blocks" = some (.list blocks) ∧
    (∃ block ∈ blocks, IsBlock "section" notification.content block) ∧
    ((∃ block ∈ blocks, block.field? "type" = some (.string "header")) ↔ notification.subject ≠ "") ∧
    ∀ block ∈ blocks, block.field? "type" = some (.string "header") →
      IsBlock "header" notification.subject block
  channel : message.field? "channel" = (target.filter (· ≠ "")).map .string

theorem isMessage_slackPayload (notification : Notification) (target : Option String) :
    IsMessage notification target (slackPayload notification target) where
  text := rfl
  blocks := by
    refine ⟨_, rfl, ?_⟩
    by_cases hsubject : notification.subject = ""
    · simp [hsubject, IsBlock, Value.field?, Entries.get?]
    · simp [hsubject, IsBlock, Value.field?, Entries.get?]
  channel := by
    cases target with
    | none => rfl
    | some name =>
      by_cases hname : name = ""
      · simp [hname, slackPayload, Value.field?, Entries.get?, Option.filter]
      · simp [hname, slackPayload, Value.field?, Entries.get?, Option.filter]

/-- The texts of the message for a target have a form in UTF-8. -/
structure Sendable (notification : Notification) (target : Option String) : Prop where
  content : Text.isEncodable notification.content = true
  subject : Text.isEncodable notification.subject = true
  target : ∀ name ∈ target, Text.isEncodable name = true

theorem isFinite_slackPayload (notification : Notification) (target : Option String) :
    (slackPayload notification target).isFinite = true := by
  unfold slackPayload
  cases notification.subject.isEmpty <;> cases target with
  | none => rfl
  | some name => cases hname : name.isEmpty <;> simp [hname, Value.isFinite, Value.allFinite,
      Value.allFieldsFinite]

theorem simple_slackPayload (notification : Notification) (target : Option String) :
    (slackPayload notification target).Simple 4 := by
  unfold slackPayload
  cases notification.subject.isEmpty <;> cases target with
  | none => simp [Entries.keys]
  | some name => by_cases hname : name = "" <;> simp [hname, Entries.keys]

theorem read_slackPayload (notification : Notification) (target : Option String) :
    Json.read (Json.write Json.plain (slackPayload notification target))
      = .ok (slackPayload notification target) :=
  Json.read_write (by decide) (simple_slackPayload notification target)

theorem sendable_iff {target : Option String} :
    Sendable notification target ↔ Text.isEncodable notification.content = true ∧
      Text.isEncodable notification.subject = true ∧
      ∀ name ∈ target, Text.isEncodable name = true :=
  ⟨fun h => ⟨h.content, h.subject, h.target⟩, fun h => ⟨h.1, h.2.1, h.2.2⟩⟩

theorem textsEncodable_slackPayload_iff (notification : Notification) (target : Option String) :
    (slackPayload notification target).TextsEncodable ↔ Sendable notification target := by
  rw [sendable_iff]
  unfold slackPayload
  by_cases hsubject : notification.subject = "" <;> cases target with
  | none => simp +decide +contextual [hsubject]
  | some name => by_cases hname : name = "" <;> simp +decide +contextual [hsubject, hname]

/-! ### Replies -/

/-- What a response to a post comes to: the cookies to go on with, or the failure that ends the
delivery. -/
def postOutcome (now : Instant) (request : WireRequest) (cookies : CookieStore)
    (packed : WireResponse) : Except Failure CookieStore := do
  let received ← Session.receive now request cookies packed
  received.response.requireSuccess received.address
  return received.cookies

theorem status_of_unpacked {packed response : WireResponse} (h : packed.unpacked = .ok response) :
    response.status = packed.status := by
  unfold WireResponse.unpacked at h
  dsimp only at h
  split at h
  · cases h
    rfl
  · cases h

theorem location?_of_isSuccess {response : WireResponse}
    (h : StatusCode.isSuccess response.status = true) : response.location? = none := by
  refine if_neg ?_
  simp only [StatusCode.isSuccess, Bool.and_eq_true, decide_eq_true_eq] at h
  simp only [StatusCode.isRedirect, List.contains_iff_mem, List.mem_cons, List.not_mem_nil, or_false]
  omega

theorem requireSuccess_eq_ok_iff {response : WireResponse} :
    response.requireSuccess address = .ok () ↔ StatusCode.isSuccess response.status = true := by
  unfold WireResponse.requireSuccess
  split <;> simp_all

section Outcome

variable {now : Instant} {request : WireRequest} {cookies : CookieStore} {packed : WireResponse}

theorem exists_postOutcome_iff (hscheme : Session.checkScheme request.address = .ok ()) :
    (∃ next, postOutcome now request cookies packed = .ok next) ↔ packed.IsAccepting := by
  constructor
  · rintro ⟨next, hnext⟩
    unfold postOutcome at hnext
    cases hreceived : Session.receive now request cookies packed with
    | error failure => simp [hreceived, bind, Except.bind] at hnext
    | ok received =>
      have hunpacked := Session.unpacked_of_receive hreceived
      cases hsuccess : received.response.requireSuccess received.address with
      | error failure => simp [hreceived, hsuccess, bind, Except.bind] at hnext
      | ok _ =>
        rw [requireSuccess_eq_ok_iff, status_of_unpacked hunpacked] at hsuccess
        exact ⟨hsuccess, received.response, hunpacked⟩
  · rintro ⟨hsuccess, read, hunpacked⟩
    rw [← status_of_unpacked hunpacked] at hsuccess
    have hreceived := Session.receive_of_location?_eq_none hunpacked hscheme
      (location?_of_isSuccess hsuccess) now cookies
    have haccepted : read.requireSuccess request.address = .ok () :=
      requireSuccess_eq_ok_iff.mpr hsuccess
    simp [postOutcome, hreceived, haccepted, bind, Except.bind, pure, Except.pure]

theorem failure_of_status {read : WireResponse} {failure : Failure}
    (hscheme : Session.checkScheme request.address = .ok ())
    (hfailure : postOutcome now request cookies packed = .error failure)
    (hunpacked : packed.unpacked = .ok read) (hlocation : read.location? = none) :
    failure.message = read.statusText request.address := by
  have hreceived := Session.receive_of_location?_eq_none hunpacked hscheme hlocation now cookies
  simp only [postOutcome, hreceived, bind, Except.bind] at hfailure
  cases hsuccess : read.requireSuccess request.address with
  | ok _ => simp [hsuccess, pure, Except.pure] at hfailure
  | error own =>
    simp only [hsuccess, Except.error.injEq] at hfailure
    subst hfailure
    unfold WireResponse.requireSuccess at hsuccess
    split at hsuccess
    · cases hsuccess
    · cases hsuccess
      rfl

end Outcome

/-! ### One post after another -/

/-- A post with the message for a target, as its body reads. -/
structure IsPost (notification : Notification) (address : Address) (target : Option String)
    (sent : Sent) : Prop where
  sendable : Sendable notification target
  method : sent.request.method = "POST"
  address : sent.request.address = address
  message : ∃ message : Value, Json.read sent.request.body = .ok message ∧
    IsMessage notification target message

/-- A message that cannot be written, and the failure that tells why: UTF-8 has no form for its text. -/
structure Breaks (notification : Notification) (target : Option String) (failure : Failure) :
    Prop where
  unsendable : ¬ Sendable notification target
  told : ∃ (body : String) (message : Value), Json.read body = .ok message ∧
    IsMessage notification target message ∧ Failure.notUtf8? body = some failure

/-- A failure that tells what became of a post: it is that of the transport itself, or it names the
status of a response that leads nowhere. -/
structure Tells (address : Address) (reply : Reply WireResponse) (failure : Failure) : Prop where
  raised : ∀ own, reply = .raised own → failure = own
  status : ∀ packed read, reply = .answered packed → packed.unpacked = .ok read →
    read.location? = none → failure.message = read.statusText address

/-- Posts to targets in turn, and what came of them: the first that is not accepted is the last, and
none follows a message that cannot be written. -/
inductive Posts (notification : Notification) (address : Address) :
    List (Option String) → List Sent → Except Failure Unit → Prop where
  | none : Posts notification address [] [] (.ok ())
  | accepted {target : Option String} {rest : List (Option String)} {sent : Sent}
      {later : List Sent} {result : Except Failure Unit}
      (hpost : IsPost notification address target sent) (haccepts : sent.reply.Accepts)
      (hlater : Posts notification address rest later result) :
      Posts notification address (target :: rest) (sent :: later) result
  | refused {target : Option String} {rest : List (Option String)} {sent : Sent}
      {failure : Failure} (hpost : IsPost notification address target sent)
      (hrefuses : ¬ sent.reply.Accepts) (htells : Tells address sent.reply failure) :
      Posts notification address (target :: rest) [sent] (.error failure)
  | broken {target : Option String} {rest : List (Option String)} {failure : Failure}
      (hbreaks : Breaks notification target failure) :
      Posts notification address (target :: rest) [] (.error failure)

/-- How the posts go on after one: with those that are left, or not at all. -/
def proceed (network : Network σ) (text : String) (notification : Notification)
    (rest : List (Option String)) (after : σ) : Except Failure CookieStore → Reply Unit × σ
  | .ok next => postAll network (.string text) notification rest next after
  | .error failure => (.raised failure, after)

theorem postAll_cons_apply {network : Network σ} {world : σ} {text : String}
    {cookies : CookieStore} {target : Option String} {request : WireRequest}
    (hpost : Session.post network cookies text (slackPayload notification target) []
      (some (.int 10)) world
      = Session.send network false Session.redirectLimit request cookies world)
    (rest : List (Option String)) :
    postAll network (.string text) notification (target :: rest) cookies world
      = match network.exchange request world with
        | (.answered packed, after) => proceed network text notification rest after
            (postOutcome (network.clock after) request cookies packed)
        | (.raised failure, after) => proceed network text notification rest after (.error failure)
        | (.hung, after) => (.hung, after) := by
  rw [postAll]
  simp only [Channel.address, Dialogue.bind_ofExcept_ok]
  rw [Dialogue.bind_apply, hpost, Session.send_false_apply]
  rcases network.exchange request world with ⟨packed | failure | _, after⟩
  · dsimp only [postOutcome]
    cases Session.receive (network.clock after) request cookies packed with
    | error failure => rfl
    | ok received =>
      cases hsuccess : received.response.requireSuccess received.address with
      | error failure =>
        simp [hsuccess, proceed, Dialogue.ofExcept, Dialogue.raise, bind, Except.bind]
      | ok _ => simp [hsuccess, proceed, Dialogue.ofExcept, bind, Except.bind, pure, Except.pure]
  · rfl
  · rfl

/-- A message that cannot be written ends the posts before it goes out, on any network. -/
theorem exists_breaks (webhook : Webhook fields) (notification : Notification) {target : Option String}
    (hnot : ¬ Sendable notification target) :
    ∃ failure, Breaks notification target failure ∧
      ∀ {τ : Type} (network : Network τ) (rest : List (Option String)) (cookies : CookieStore)
        (world : τ), postAll network (.string webhook.text) notification (target :: rest) cookies world
          = (.raised failure, world) := by
  rcases Session.jsonBody_cases (isFinite_slackPayload notification target) with
    ⟨htexts, -⟩ | ⟨-, failure, hbody, hfailure⟩
  · exact absurd ((textsEncodable_slackPayload_iff notification target).mp htexts) hnot
  · refine ⟨failure, ⟨hnot, _, _, read_slackPayload notification target,
      isMessage_slackPayload notification target, hfailure⟩, fun network rest cookies world => ?_⟩
    have hpost := Session.post_of_jsonBody_error webhook.read hbody network cookies (some (.int 10)) world
    rw [postAll]
    simp only [Channel.address, Dialogue.bind_ofExcept_ok]
    rw [Dialogue.bind_apply, hpost]

section Posting

variable {network : Network σ} (hreturns : ∀ request world, (network.exchange request world).1 ≠ .hung)
  (webhook : Webhook fields) (notification : Notification)
include hreturns

/-- A post to one target, made alike on the network and on the watched one, and what follows it. -/
theorem exists_post {target : Option String} (hsendable : Sendable notification target)
    (cookies : CookieStore) (world : σ) :
    ∃ (sent : Sent) (outcome : Except Failure CookieStore) (after : σ),
      IsPost notification webhook.address target sent ∧
      ((∃ next, outcome = .ok next) ↔ sent.reply.Accepts) ∧
      (∀ failure, outcome = .error failure → Tells webhook.address sent.reply failure) ∧
      (∀ rest, postAll network (.string webhook.text) notification (target :: rest) cookies world
        = proceed network webhook.text notification rest after outcome) ∧
      ∀ rest before, postAll network.watched (.string webhook.text) notification (target :: rest)
          cookies (world, before)
        = proceed network.watched webhook.text notification rest (after, before ++ [sent]) outcome := by
  have hwritten : Session.jsonBody (slackPayload notification target)
      = .ok (Json.write Json.plain (slackPayload notification target)) := by
    rcases Session.jsonBody_cases (isFinite_slackPayload notification target) with
      ⟨-, hwritten⟩ | ⟨hnot, -⟩
    · exact hwritten
    · exact absurd ((textsEncodable_slackPayload_iff notification target).mpr hsendable) hnot
  obtain ⟨request, hmethod, haddress, hbody, hpost⟩ := Session.exists_request webhook.read
    webhook.complete (network.clock world) cookies hwritten (some (.int 10))
  have hscheme : Session.checkScheme request.address = .ok () :=
    haddress ▸ Address.checkScheme_of_isAbsolute webhook.read webhook.complete
  have hmessage : ∀ reply, IsPost notification webhook.address target ⟨request, reply⟩ := fun reply =>
    ⟨hsendable, hmethod, haddress, _, hbody ▸ read_slackPayload notification target,
      isMessage_slackPayload notification target⟩
  -- The watched network shows the same time, so that the same request goes out on it.
  have hplain := hpost network world rfl
  have hwatched := fun before => hpost network.watched (world, before) (Network.clock_watched world before)
  rcases hreply : network.exchange request world with ⟨packed | failure | _, after⟩
  · have hgoes : (∃ next, postOutcome (network.clock after) request cookies packed = .ok next)
        ↔ packed.IsAccepting := exists_postOutcome_iff hscheme
    refine ⟨⟨request, .answered packed⟩, postOutcome (network.clock after) request cookies packed, after,
      hmessage _, hgoes.trans ⟨fun h => ⟨packed, rfl, h⟩, ?_⟩, fun failure hfailure => ⟨nofun, ?_⟩,
      fun rest => ?_, fun rest before => ?_⟩
    · rintro ⟨response, hanswer, haccepting⟩
      exact Reply.answered.inj hanswer ▸ haccepting
    · intro response read hanswer hread hlocation
      obtain rfl := Reply.answered.inj hanswer
      exact haddress ▸ failure_of_status hscheme hfailure hread hlocation
    · rw [postAll_cons_apply hplain, hreply]
    · rw [postAll_cons_apply (hwatched before), Network.exchange_watched hreply]
      rfl
  · refine ⟨⟨request, .raised failure⟩, .error failure, after, hmessage _, ?_, ?_,
      fun rest => ?_, fun rest before => ?_⟩
    · constructor
      · rintro ⟨next, ⟨⟩⟩
      · rintro ⟨response, ⟨⟩, -⟩
    · rintro own ⟨⟩
      exact ⟨fun told htold => Reply.raised.inj htold, nofun⟩
    · rw [postAll_cons_apply hplain, hreply]
    · rw [postAll_cons_apply (hwatched before), Network.exchange_watched hreply]
  · exact absurd (congrArg Prod.fst hreply) (hreturns request world)

theorem exists_posts (targets : List (Option String)) (cookies : CookieStore) (world : σ)
    (before : List Sent) :
    ∃ sent result after, Posts notification webhook.address targets sent result ∧
      postAll network (.string webhook.text) notification targets cookies world
        = Dialogue.ofExcept result after ∧
      postAll network.watched (.string webhook.text) notification targets cookies (world, before)
        = Dialogue.ofExcept result (after, before ++ sent) := by
  -- Each post leaves other cookies, another world and one more request on the list.
  induction targets generalizing cookies world before with
  | nil => exact ⟨[], .ok (), world, .none, rfl, by rw [List.append_nil]; rfl⟩
  | cons target rest ih =>
    by_cases hsendable : Sendable notification target
    case neg =>
      obtain ⟨failure, hbreaks, hends⟩ := exists_breaks webhook notification hsendable
      refine ⟨[], .error failure, world, .broken hbreaks, hends network rest cookies world, ?_⟩
      rw [hends network.watched rest cookies (world, before), List.append_nil]
      rfl
    obtain ⟨sent, outcome, after, hpost, haccepts, htells, hplain, hwatched⟩ :=
      exists_post hreturns webhook notification hsendable cookies world
    rw [hplain, hwatched]
    cases outcome with
    | ok next =>
      obtain ⟨later, result, last, hposts, hrest, hrestWatched⟩ := ih next after (before ++ [sent])
      refine ⟨sent :: later, result, last, .accepted hpost (haccepts.mp ⟨next, rfl⟩) hposts, hrest, ?_⟩
      simp only [proceed, hrestWatched, List.append_assoc, List.singleton_append]
    | error failure =>
      refine ⟨[sent], .error failure, after, .refused hpost ?_ (htells failure rfl), rfl, rfl⟩
      rw [← haccepts]
      rintro ⟨next, ⟨⟩⟩

end Posting

/-! ### What was sent -/

namespace Posts

variable {targets : List (Option String)} {sent : List Sent} {result : Except Failure Unit}

theorem forall₂_isPost (h : Posts notification address targets sent result) :
    List.Forall₂ (IsPost notification address) (targets.take sent.length) sent := by
  induction h with
  | none => exact .nil
  | accepted hpost _ _ ih => exact .cons hpost ih
  | refused hpost _ _ => exact .cons hpost .nil
  | broken _ => exact .nil

theorem accepts_of_mem_dropLast (h : Posts notification address targets sent result) :
    ∀ earlier ∈ sent.dropLast, earlier.reply.Accepts := by
  induction h with
  | none => simp
  | @accepted _ _ first later _ _ haccepts _ ih =>
    cases later with
    | nil => simp
    | cons second others =>
      intro earlier hearlier
      rw [List.dropLast_cons_cons, List.mem_cons] at hearlier
      obtain rfl | hearlier := hearlier
      · exact haccepts
      · exact ih earlier hearlier
  | refused _ _ _ => simp
  | broken _ => simp

theorem eq_ok_iff (h : Posts notification address targets sent result) :
    result = .ok () ↔ sent.length = targets.length ∧ ∀ post ∈ sent, post.reply.Accepts := by
  induction h with
  | none => simp
  | accepted _ haccepts _ ih => simp [ih, haccepts]
  | refused _ hrefuses _ => simp [hrefuses]
  | broken _ => simp

/-- Posts end early at one that is not accepted, or before one that cannot be written. -/
theorem exists_of_error {failure : Failure}
    (h : Posts notification address targets sent (.error failure)) :
    (∃ last ∈ sent.getLast?, ¬ last.reply.Accepts ∧ Tells address last.reply failure) ∨
      (∀ post ∈ sent, post.reply.Accepts) ∧
        ∃ target ∈ targets[sent.length]?, Breaks notification target failure := by
  generalize hresult : (Except.error failure : Except Failure Unit) = result at h
  induction h with
  | none => cases hresult
  | @accepted _ _ first later _ _ haccepts _ ih =>
    rcases ih hresult with ⟨last, hlast, htold⟩ | ⟨hall, target, htarget, hbreaks⟩
    · exact Or.inl ⟨last, List.mem_getLast?_cons hlast, htold⟩
    · exact Or.inr ⟨List.forall_mem_cons.mpr ⟨haccepts, hall⟩, target, by simpa using htarget,
        hbreaks⟩
  | @refused _ _ only _ _ hrefuses htells =>
    obtain rfl := Except.error.inj hresult
    exact Or.inl ⟨only, rfl, hrefuses, htells⟩
  | @broken target _ _ hbreaks =>
    obtain rfl := Except.error.inj hresult
    exact Or.inr ⟨by simp, target, rfl, hbreaks⟩

end Posts

/-! ### The acknowledgement -/

def slackDelivery (now : Instant) : Except Failure Unit → Delivery
  | .ok () => .delivered "Slack message sent" now
  | .error failure => .undelivered failure.message

theorem setting?_webhook (webhook : Webhook fields) :
    setting? fields "webhook_url" = some (.string webhook.text) := by
  have hfull : webhook.text.isEmpty = false := by
    by_contra hempty
    rw [Bool.not_eq_false, String.isEmpty_iff] at hempty
    have hread := webhook.read
    have hnowhere : Address.ofText "" = .ok .empty := Address.eq_ok_of_toOption (by decide +kernel)
    rw [hempty, hnowhere] at hread
    have hcomplete := webhook.complete
    rw [← Except.ok.inj hread] at hcomplete
    exact absurd hcomplete (by decide)
  simp [setting?, webhook.given, Value.isNothing, Option.filter, hfull]

/-- What a delivery leaves when its posts are over: a failure is logged. -/
def slackLogged (network : Network σ) : Except Failure Unit → σ → σ
  | .ok (), world => world
  | .error failure, world => network.log .error ("Slack send failed: " ++ failure.message) world

theorem deliver_slack_apply {network : Network σ} {world after : σ} {result : Except Failure Unit}
    (webhook : Webhook fields)
    (hposts : postAll network (.string webhook.text) notification
      (slackTargets notification.recipients) [] world = Dialogue.ofExcept result after) :
    deliver network .slack fields notification world = (.answered {
      channel := Channel.slack.name
      recipients := notification.recipients
      delivery := slackDelivery (network.clock after) result }, slackLogged network result after) := by
  simp only [deliver, setting?_webhook webhook, acknowledge, Dialogue.attempt, Dialogue.bind_apply,
    hposts]
  cases result <;> rfl

/-- The posts of a delivery and what it says of them. The posts go to the targets in turn, one message
each; all but the last are accepted, and there are fewer than targets only when the last is not, or when
the message for the next target cannot be written. It says that it went well exactly if all posts were
made and accepted, and tells else what became of the last one, or why the next message cannot be
written. -/
structure PostedInTurn (notification : Notification) (address : Address) (sent : List Sent)
    (delivery : Delivery) : Prop where
  posts : List.Forall₂ (IsPost notification address)
    ((slackTargets notification.recipients).take sent.length) sent
  accepted : ∀ earlier ∈ sent.dropLast, earlier.reply.Accepts
  stopped : sent.length < (slackTargets notification.recipients).length →
    (∃ last ∈ sent.getLast?, ¬ last.reply.Accepts) ∨
      ∃ target ∈ (slackTargets notification.recipients)[sent.length]?, ¬ Sendable notification target
  delivered : (∃ message time, delivery = .delivered message time) ↔
    sent.length = (slackTargets notification.recipients).length ∧ ∀ post ∈ sent, post.reply.Accepts
  undelivered : ∀ error, delivery = .undelivered error →
    (∃ last ∈ sent.getLast?, ¬ last.reply.Accepts ∧
      ∃ failure, Tells address last.reply failure ∧ error = failure.message) ∨
      (∀ post ∈ sent, post.reply.Accepts) ∧
        ∃ target ∈ (slackTargets notification.recipients)[sent.length]?,
          ∃ failure, Breaks notification target failure ∧ error = failure.message

theorem Posts.postedInTurn {sent : List Sent} {result : Except Failure Unit}
    (h : Posts notification address (slackTargets notification.recipients) sent result)
    (now : Instant) : PostedInTurn notification address sent (slackDelivery now result) where
  posts := h.forall₂_isPost
  accepted := h.accepts_of_mem_dropLast
  stopped hfewer := by
    cases result with
    | ok _ => exact absurd (h.eq_ok_iff.mp rfl).1 (Nat.ne_of_lt hfewer)
    | error failure =>
      rcases h.exists_of_error with ⟨last, hlast, hrefuses, -⟩ | ⟨-, target, htarget, hbreaks⟩
      · exact Or.inl ⟨last, hlast, hrefuses⟩
      · exact Or.inr ⟨target, htarget, hbreaks.unsendable⟩
  delivered := by
    rw [← h.eq_ok_iff]
    cases result <;> simp [slackDelivery]
  undelivered error herror := by
    cases result with
    | ok _ => cases herror
    | error failure =>
      have hwords : error = failure.message := (Delivery.undelivered.inj herror).symm
      rcases h.exists_of_error with ⟨last, hlast, hrefuses, htells⟩ | ⟨hall, target, htarget, hbreaks⟩
      · exact Or.inl ⟨last, hlast, hrefuses, failure, htells, hwords⟩
      · exact Or.inr ⟨hall, target, htarget, failure, hbreaks, hwords⟩

/-- **Messages go to the targets in turn, up to the first that is not accepted or cannot be written, and
the acknowledgement agrees with them.** A delivery always answers, and watching it shows what it sends. -/
theorem slack_posts_up_to_first_failure {network : Network σ}
    (hreturns : ∀ request world, (network.exchange request world).1 ≠ .hung)
    (webhook : Webhook fields) (notification : Notification) (world : σ) :
    ∃ (delivery : Delivery) (after : σ) (sent : List Sent),
      let ack : Acknowledgement := {
        channel := Channel.slack.name, recipients := notification.recipients, delivery }
      deliver network .slack fields notification world = (.answered ack, after) ∧
        deliver network.watched .slack fields notification (world, []) = (.answered ack, after, sent) ∧
        PostedInTurn notification webhook.address sent delivery := by
  obtain ⟨sent, result, after, hposts, hplain, hwatched⟩ := exists_posts hreturns webhook notification
    (slackTargets notification.recipients) [] world []
  refine ⟨slackDelivery (network.clock after) result, slackLogged network result after, sent,
    deliver_slack_apply webhook hplain, ?_, hposts.postedInTurn _⟩
  rw [deliver_slack_apply webhook hwatched]
  cases result <;> rfl

end Channel

namespace Sample

/-- A network that takes one post and no more, and counts them. -/
def takesOne : Network Nat where
  exchange _ posted := (.answered {
    status := if posted = 0 then 200 else 503
    headers := []
    body := [] }, posted + 1)
  mail _ posted := (.answered (), posted)
  clock posted := ⟨posted⟩
  log _ _ posted := posted

def hookFields : Value.Fields := [("webhook_url", .string "http://hook")]

def hook : Webhook hookFields where
  text := "http://hook"
  address := { scheme := "http", user := "", host := "hook", port := none, path := "", query := none,
               fragment := none }
  given := rfl
  read := Address.eq_ok_of_toOption (by decide +kernel)
  complete := by decide

def outage : Notification where
  channel := "slack"
  recipients := ["#ops", "", "#dev"]
  subject := "Outage"
  content := "Down"

/-- Of three posts the second is refused, and the third is not made. -/
theorem outage_posted_up_to_first_failure :
    (∀ request world, (takesOne.exchange request world).1 ≠ .hung) ∧
      ∃ (error : String) (sent : List Sent),
        (Channel.deliver takesOne.watched .slack hookFields outage (0, [])).2.2 = sent ∧
        sent.length = 2 ∧
        Channel.PostedInTurn outage hook.address sent (.undelivered error) := by
  have hreturns : ∀ request world, (takesOne.exchange request world).1 ≠ .hung := nofun
  obtain ⟨delivery, after, sent, -, hwatched, hturn⟩ :=
    Channel.slack_posts_up_to_first_failure hreturns hook outage 0
  have hlength : sent.length = 2 := by
    have hcount : (Channel.deliver takesOne.watched .slack hookFields outage (0, [])).2.2.length = 2 := by
      decide +kernel
    rwa [hwatched] at hcount
  cases delivery with
  | delivered message time =>
    have hall := (hturn.delivered.mp ⟨message, time, rfl⟩).1
    rw [hlength] at hall
    exact absurd hall (by decide)
  | undelivered error => exact ⟨hreturns, error, sent, by rw [hwatched], hlength, hturn⟩

end Sample

end Runbook
