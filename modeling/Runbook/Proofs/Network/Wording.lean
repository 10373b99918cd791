import Runbook.Proofs.Interaction
import Runbook.Proofs.Network.Session

/-!
# The words of failures

A failure of a client comes from the network, or the client words it itself. The words of its own
failures begin with one of a few phrases, and none of these begins with the letter that begins the
answer of a channel that lacks a setting.
-/

namespace Runbook

namespace Dialogue

variable {σ α : Type} {P : Failure → Prop}

theorem raisesOnly_look (f : σ → α) : RaisesOnly P (look f) := nofun

theorem raisesOnly_attempt (x : Dialogue σ α) : RaisesOnly P x.attempt := by
  intro world failure hfailure
  rw [attempt] at hfailure
  rcases hreply : x world with ⟨a | own | _, after⟩ <;> simp [hreply] at hfailure

/-- An attempt answers with a failure of what is attempted. -/
theorem RaisesOnly.gives_attempt {x : Dialogue σ α} (h : RaisesOnly P x) :
    Gives (FailsOnly P) x.attempt := by
  intro world result hresult
  rw [attempt] at hresult
  rcases hreply : x world with ⟨a | failure | _, after⟩
  · simp only [hreply, Reply.answered.injEq] at hresult
    exact hresult ▸ FailsOnly.ok a
  · simp only [hreply, Reply.answered.injEq] at hresult
    exact hresult ▸ FailsOnly.error (h world failure (by rw [hreply]))
  · simp [hreply] at hresult

end Dialogue

variable {σ : Type}

/-- Whether an exchange or a mail command fails so. -/
def Network.Raises (network : Network σ) (failure : Failure) : Prop :=
  (∃ request world, (network.exchange request world).1 = .raised failure) ∨
    ∃ command world, (network.mail command world).1 = .raised failure

/-- A text that begins otherwise than the answers of a channel without its setting. -/
def Unmistakable (text : String) : Prop :=
  text.toList.head? ≠ some 'N'

/-- A failure of the network, or one in words of the client's own. -/
def Network.Explains (network : Network σ) (failure : Failure) : Prop :=
  network.Raises failure ∨ Unmistakable failure.message

/-! ### Words of the client -/

theorem toString_text (s : String) : toString s = s := rfl

theorem Hostname.Fault.unmistakable_message (host : String) (fault : Hostname.Fault) :
    Unmistakable (fault.message host) := by
  cases fault <;> unfold Hostname.Fault.message <;> simp only [toString_text] <;> simp [Unmistakable]

theorem Address.Fault.unmistakable_message (fault : Address.Fault) : Unmistakable fault.message := by
  unfold Address.Fault.message
  cases fault with
  | host text fault => exact fault.unmistakable_message text
  | tooLong | rootlessPath | doubleSlash | leadingColon => simp [Unmistakable]
  | control | port | notEncodable =>
    dsimp only
    simp only [toString_text]
    simp [Unmistakable]

theorem Address.Fault.unmistakable_toFailure (fault : Address.Fault) :
    Unmistakable fault.toFailure.message := by
  have hmessage := fault.unmistakable_message
  cases fault <;> exact hmessage

theorem Text.unmistakable_complaint? {codec reason : String} {fits : Nat → Bool} {codes : List Nat}
    {complaint : String} (h : complaint? codec reason fits codes = some complaint) :
    Unmistakable complaint := by
  unfold complaint? at h
  dsimp only at h
  split at h
  · cases h
  · cases h
    simp only [toString_text]
    simp [Unmistakable]
  · cases h
    simp only [toString_text]
    simp [Unmistakable]

theorem Failure.unmistakable_notUtf8? {s : String} {failure : Failure}
    (h : notUtf8? s = some failure) : Unmistakable failure.message := by
  obtain ⟨complaint, hcomplaint, rfl⟩ := Option.map_eq_some_iff.mp h
  exact Text.unmistakable_complaint? hcomplaint

theorem Failure.unmistakable_notAscii? {s : String} {failure : Failure}
    (h : notAscii? s = some failure) : Unmistakable failure.message := by
  obtain ⟨complaint, hcomplaint, rfl⟩ := Option.map_eq_some_iff.mp h
  exact Text.unmistakable_complaint? hcomplaint

theorem StatusCode.exists_family_eq (status : Int) :
    ∃ first rest, (family status).toList = first :: rest ∧ first ≠ 'N' := by
  unfold family
  repeat' split
  all_goals exact ⟨_, _, rfl, by decide⟩

theorem unmistakable_statusText (response : WireResponse) (address : Address) :
    Unmistakable (response.statusText address) := by
  obtain ⟨first, rest, hfamily, hfirst⟩ := StatusCode.exists_family_eq response.status
  simp only [WireResponse.statusText, toString_text]
  simp [Unmistakable, hfamily, hfirst]

theorem Coding.failsOnly_unpackAll (codings : List Coding) (bytes : List UInt8) :
    FailsOnly Unmistakable (unpackAll codings bytes) := by
  have hfault : ∀ message, Unmistakable (faultText message) := fun message => by
    unfold faultText
    simp [Unmistakable]
  refine .foldlM (fun bytes coding => ?_) _ _
  cases coding with
  | plain => exact .ok bytes
  | gzip =>
    unfold unpack unpackArchive
    dsimp only
    split
    · exact .ok []
    · split
      · exact .error (hfault _)
      · split
        · exact .ok []
        · exact .mapError (fun fault => hfault _) _
  | deflate => exact .mapError (fun fault => hfault _) _

/-! ### Requests and their replies -/

namespace Session

variable {network : Network σ} {address : Address} {now : Instant} {cookies : CookieStore}
  {request : WireRequest}

theorem failsOnly_checkScheme : FailsOnly network.Explains (checkScheme address) := by
  unfold checkScheme
  dsimp only
  split
  · exact .ok ()
  · refine .error (.inr ?_)
    simp only [Failure.message, Failure.other, toString_text]
    simp [Unmistakable]

theorem failsOnly_withCookies {headers : Entries String} :
    FailsOnly network.Explains (withCookies now cookies address headers) := by
  unfold withCookies
  split
  · exact .ok headers
  · exact failsOnly_checkScheme.map _

theorem failsOnly_check {entries : List (String × String)} :
    FailsOnly network.Explains (Headers.check entries) := by
  unfold Headers.check
  split
  · next failure hfound =>
    obtain ⟨entry, -, hentry⟩ := List.exists_of_findSome?_eq_some hfound
    obtain hname | ⟨-, hvalue⟩ := Option.or_eq_some_iff.mp hentry
    · exact .error (.inr (Failure.unmistakable_notAscii? hname))
    · exact .error (.inr (Failure.unmistakable_notAscii? hvalue))
  · exact .ok ()

theorem failsOnly_jsonBody {v : Value} : FailsOnly network.Explains (jsonBody v) := by
  unfold jsonBody textBody
  split
  · split
    · next failure hfailure => exact .error (.inr (Failure.unmistakable_notUtf8? hfailure))
    · exact .ok _
  · exact .error (.inr (by simp [Unmistakable, Failure.message]))

theorem failsOnly_request {method url : String} {headers : List (String × String)} {v : Value}
    {timeout : Option Number} :
    FailsOnly network.Explains (Session.request now cookies method url headers (jsonBody v) timeout) :=
  .bind (.mapError (fun fault => .inr fault.unmistakable_toFailure) _) fun _ =>
    .bind failsOnly_check fun _ => .bind failsOnly_jsonBody fun _ =>
      .bind failsOnly_withCookies fun _ => .pure _

theorem failsOnly_requestAfter {status : Int} {location : String} :
    FailsOnly network.Explains (requestAfter now cookies request status location) := by
  refine .bind ?_ fun address => .bind failsOnly_withCookies fun headers => .pure _
  unfold addressAfter
  split
  · refine .error (.inr ?_)
    simp only [Failure.message, toString_text]
    simp [Unmistakable]
  · exact .mapError (fun fault => .inr fault.unmistakable_toFailure) _

theorem failsOnly_unpacked {packed : WireResponse} :
    FailsOnly network.Explains packed.unpacked := by
  unfold WireResponse.unpacked
  dsimp only
  split
  · exact .ok _
  · next message hmessage =>
    exact .error (.inr (Coding.failsOnly_unpackAll _ _ message hmessage))

theorem failsOnly_requireSuccess {response : WireResponse} :
    FailsOnly network.Explains (response.requireSuccess address) := by
  unfold WireResponse.requireSuccess
  split
  · exact .ok ()
  · exact .error (.inr (unmistakable_statusText response address))

open Dialogue

theorem failsOnly_receive {packed : WireResponse} :
    FailsOnly network.Explains (receive now request cookies packed) := by
  refine .bind failsOnly_unpacked fun response => .bind failsOnly_checkScheme fun _ => ?_
  dsimp only
  split
  · exact .pure _
  · exact .bind failsOnly_requestAfter fun _ => .pure _

theorem raisesOnly_send {left : Nat} :
    (send network false left request cookies).RaisesOnly network.Explains := by
  intro world failure hfailure
  rw [send_false_apply] at hfailure
  rcases hreply : network.exchange request world with ⟨packed | own | _, after⟩
  · exact raisesOnly_ofExcept failsOnly_receive after failure (by simpa [hreply] using hfailure)
  · exact .inl (.inl ⟨request, world, by simpa [hreply] using hfailure⟩)
  · simp [hreply] at hfailure

theorem raisesOnly_post {url : String} {payload : Value} {headers : List (String × String)}
    {timeout : Option Number} :
    (post network cookies url payload headers timeout).RaisesOnly network.Explains :=
  .bind (raisesOnly_look _) fun _ =>
    .bind (raisesOnly_ofExcept failsOnly_request) fun _ => raisesOnly_send

end Session

end Runbook
