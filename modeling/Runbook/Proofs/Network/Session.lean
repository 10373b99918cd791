import Runbook.Proofs.Json.Encodable
import Runbook.Proofs.Network.Address

/-!
# One post and what its reply comes to

A network can be watched: it does what it does and keeps a list of what was sent. A post follows no
redirects, so that one request goes out, and the rest is a function of the reply and of the time.
-/

namespace Runbook

/-- A request that went out, and the reply to it. -/
structure Sent where
  request : WireRequest
  reply : Reply WireResponse

variable {σ : Type}

/-- The network, with a list of what was sent so far beside its state. -/
def Network.watched (network : Network σ) : Network (σ × List Sent) where
  exchange request state :=
    ((network.exchange request state.1).1, (network.exchange request state.1).2,
      state.2 ++ [⟨request, (network.exchange request state.1).1⟩])
  mail command state := ((network.mail command state.1).1, (network.mail command state.1).2, state.2)
  clock state := network.clock state.1
  log level line state := (network.log level line state.1, state.2)

namespace Network

variable {network : Network σ}

theorem exchange_watched {request : WireRequest} {world after : σ} {reply : Reply WireResponse}
    (h : network.exchange request world = (reply, after)) (before : List Sent) :
    network.watched.exchange request (world, before) = (reply, after, before ++ [⟨request, reply⟩]) := by
  simp [Network.watched, h]

@[simp] theorem clock_watched (world : σ) (before : List Sent) :
    network.watched.clock (world, before) = network.clock world := rfl

end Network

namespace Dialogue

variable {α β : Type}

theorem bind_look (f : σ → α) (g : α → Dialogue σ β) (world : σ) :
    (look f >>= g) world = g (f world) world := rfl

theorem bind_ofExcept_ok (a : α) (f : α → Dialogue σ β) : ofExcept (.ok a) >>= f = f a := rfl

end Dialogue

namespace Session

variable {network : Network σ} {world : σ} {cookies : CookieStore} {address : Address}

/-! ### Replies -/

/-- What a response comes to: it is unpacked, its cookies are kept, and it must lead to an address if it
is a redirect. -/
def receive (now : Instant) (request : WireRequest) (cookies : CookieStore) (packed : WireResponse) :
    Except Failure Received := do
  let response ← packed.unpacked
  checkScheme request.address
  let cookies := cookies.take now request.address (response.values "set-cookie")
  match response.location? with
  | none => return { address := request.address, response, cookies }
  | some location =>
    let _ ← requestAfter now cookies request response.status location
    return { address := request.address, response, cookies }

theorem send_false_apply (left : Nat) (request : WireRequest) :
    send network false left request cookies world = match network.exchange request world with
      | (.answered packed, after) =>
        Dialogue.ofExcept (receive (network.clock after) request cookies packed) after
      | (.raised failure, after) => (.raised failure, after)
      | (.hung, after) => (.hung, after) := by
  rw [send, exchange, Dialogue.bind_apply, Dialogue.bind_apply]
  rcases network.exchange request world with ⟨packed | failure | _, after⟩
  · dsimp only [receive]
    cases packed.unpacked with
    | error failure => rfl
    | ok response =>
      cases checkScheme request.address with
      | error failure => rfl
      | ok _ =>
        simp only [Dialogue.bind_ofExcept_ok, Dialogue.bind_look]
        cases hlocation : response.location? with
        | none => simp [hlocation, pure, Except.pure, bind, Except.bind, Dialogue.ofExcept]
        | some location =>
          -- The request that would follow is made, and goes nowhere.
          cases hnext : requestAfter (network.clock after)
              (cookies.take (network.clock after) request.address (response.values "set-cookie"))
              request response.status location with
          | error failure =>
            simp [hlocation, hnext, bind, Except.bind, pure, Dialogue.ofExcept, Dialogue.look,
              Dialogue.raise]
          | ok next =>
            simp [hlocation, hnext, bind, Except.bind, pure, Except.pure, Dialogue.ofExcept,
              Dialogue.look]
  · rfl
  · rfl

theorem receive_of_location?_eq_none {request : WireRequest} {packed response : WireResponse}
    (hunpacked : packed.unpacked = .ok response)
    (hscheme : checkScheme request.address = .ok ()) (hlocation : response.location? = none)
    (now : Instant) (cookies : CookieStore) :
    receive now request cookies packed = .ok {
      address := request.address
      response
      cookies := cookies.take now request.address (response.values "set-cookie") } := by
  simp [receive, hunpacked, hscheme, hlocation, bind, Except.bind, pure, Except.pure]

theorem unpacked_of_receive {now : Instant} {request : WireRequest} {packed : WireResponse}
    {received : Received} (h : receive now request cookies packed = .ok received) :
    packed.unpacked = .ok received.response := by
  rw [receive] at h
  cases hunpacked : packed.unpacked with
  | error failure => simp [hunpacked, bind, Except.bind] at h
  | ok response =>
    cases hscheme : checkScheme request.address with
    | error failure => simp [hunpacked, hscheme, bind, Except.bind] at h
    | ok _ =>
      cases hlocation : response.location? with
      | none =>
        simp only [hunpacked, hscheme, hlocation, bind, Except.bind, pure, Except.pure] at h
        obtain rfl := Except.ok.inj h
        rfl
      | some location =>
        simp only [hunpacked, hscheme, hlocation, bind, Except.bind] at h
        split at h
        · cases h
        · obtain rfl := Except.ok.inj h
          rfl

/-! ### Posts -/

theorem jsonBody_cases {payload : Value} (hfinite : payload.isFinite = true) :
    payload.TextsEncodable ∧ jsonBody payload = .ok (Json.write Json.plain payload) ∨
      ¬ payload.TextsEncodable ∧ ∃ failure,
        jsonBody payload = .error failure ∧
        Failure.notUtf8? (Json.write Json.plain payload) = some failure := by
  rw [← Json.isEncodable_write_iff, ← Failure.notUtf8?_eq_none_iff, jsonBody, if_pos hfinite, textBody]
  cases Failure.notUtf8? (Json.write Json.plain payload) with
  | none => exact Or.inl ⟨rfl, rfl⟩
  | some failure => exact Or.inr ⟨nofun, failure, rfl, rfl⟩

theorem under_of_isAbsolute (habsolute : address.isAbsolute = true) :
    Address.empty.under address = address := by
  rw [Address.under, if_pos habsolute]

/-- A post to a complete address goes out as one request if its payload can be written, whatever cookies
there are; which one depends on the time alone. -/
theorem exists_request {text : String} (hread : Address.ofText text = .ok address)
    (habsolute : address.isAbsolute = true) (now : Instant) (cookies : CookieStore)
    {payload : Value} {body : String} (hbody : jsonBody payload = .ok body) (timeout : Option Number) :
    ∃ made : WireRequest, made.method = "POST" ∧ made.address = address ∧ made.body = body ∧
      ∀ {σ : Type} (network : Network σ) (world : σ), network.clock world = now →
        post network cookies text payload [] timeout world
          = send network false redirectLimit made cookies world := by
  have hscheme := Address.checkScheme_of_isAbsolute hread habsolute
  -- Cookies are looked up by the address, which is why its scheme matters.
  obtain ⟨headers, hheaders⟩ : ∃ headers, withCookies now cookies address [] = .ok headers := by
    unfold withCookies
    split
    · exact ⟨_, rfl⟩
    · exact ⟨_, by rw [hscheme]; rfl⟩
  let first : WireRequest := {
    method := "POST"
    address
    headers := withCredentials address headers
    body
    timeout }
  have hfirst : request now cookies "POST" text [] (jsonBody payload) timeout = .ok first := by
    have hfree : Headers.check [] = .ok () := rfl
    have hnone : Headers.ofEntries [] = [] := rfl
    simp only [Session.request, hread, hbody, hfree, hnone, Except.mapError, bind, Except.bind]
    rw [under_of_isAbsolute habsolute, hheaders]
    rfl
  refine ⟨{ first with headers := Entries.put first.headers "content-type" "application/json" },
    rfl, rfl, rfl, ?_⟩
  rintro σ network world rfl
  rw [post, Dialogue.bind_look, hfirst]
  rfl

/-- A payload that cannot be written ends a post before anything goes out. -/
theorem post_of_jsonBody_error {text : String} (hread : Address.ofText text = .ok address)
    {payload : Value} {failure : Failure} (hbody : jsonBody payload = .error failure)
    (network : Network σ) (cookies : CookieStore) (timeout : Option Number) (world : σ) :
    post network cookies text payload [] timeout world = (.raised failure, world) := by
  have hfree : Headers.check [] = .ok () := rfl
  rw [post, Dialogue.bind_look]
  simp only [Session.request, hread, hbody, hfree, Except.mapError, bind, Except.bind]
  rfl

end Session

end Runbook
