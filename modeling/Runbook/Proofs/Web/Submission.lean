import Runbook.Proofs.Engine.Ending
import Runbook.Proofs.Web.Site

/-!
# Answers to requests for a run

Five ways lead to the answer to a request for a run: the complaint about its form, the handling of the
orchestrator's own failures, the refusal of a workflow that does not load, the summary of a run, and what
is told of a failure that nothing deals with. Each chooses the status and the body by itself; yet status,
success and error never contradict each other.
-/

namespace Runbook

/-! ### Errors have words -/

theorem EngineFault.message_ne_empty (fault : EngineFault) : fault.message ≠ "" := by
  cases fault with
  | noExecutor type => cases type <;> decide
  | escaped step words | foreignResult step kind =>
    unfold EngineFault.message
    simp [toString]

/-- A failed lookup is told with a status that turns nobody away, and in words. -/
theorem LoadFailure.turns_away_or_in_words (failure : Failure) :
    (ofFailure failure).status = 404 ∨ (ofFailure failure).status = 422 ∨
      (ofFailure failure).status = 500 ∧ (ofFailure failure).message ≠ "" := by
  cases failure with
  | notFound message => exact Or.inl rfl
  | invalidDefinition message => exact Or.inr (Or.inl rfl)
  | _ =>
    refine Or.inr (Or.inr ⟨rfl, ?_⟩)
    intro h
    change "Workflow lookup failed: " ++ _ = "" at h
    simp at h

/-- The final records whose status, error and error status go together. -/
inductive Record.Coherent (record : Record) : Prop where
  | completed (hstatus : record.status = .completed) (herror : record.error = none)
  | turnedAway (hstatus : record.status = .failed)
      (hturned : record.errorStatus = some 404 ∨ record.errorStatus = some 422)
  | failed {error : String} (hstatus : record.status = .failed)
      (herrorStatus : record.errorStatus = some 500) (herror : record.error = some error)
      (hwords : error ≠ "")

theorem Engine.EndsBy.coherent {σ τ : Type} {engine : Engine σ τ} {id : String}
    {request : RunRequest} {stage : Stage σ} {sink : τ} {order : List Step} {record : Record}
    {shape : Record.Shape} (h : engine.EndsBy id request stage sink order record shape)
    (hshape : record.HasShape order shape) : record.Coherent := by
  cases shape with
  | unloaded =>
    obtain ⟨-, failure, -, herror, herrorStatus, -⟩ := h
    rcases LoadFailure.turns_away_or_in_words failure with hstatus | hstatus | ⟨hstatus, hwords⟩
    · exact .turnedAway hshape.status (Or.inl (by rw [herrorStatus, hstatus]))
    · exact .turnedAway hshape.status (Or.inr (by rw [herrorStatus, hstatus]))
    · exact .failed hshape.status (by rw [herrorStatus, hstatus]) herror hwords
  | aborted position =>
    obtain ⟨-, -, -, -, fault, -, -, -, -, herror⟩ := h
    exact .failed hshape.status hshape.errorStatus herror fault.message_ne_empty
  | complete => exact .completed hshape.status hshape.error

namespace Web

/-! ### Answers that say one thing -/

/-- An answer with one of the statuses of a submission. Its body is an object that says success exactly
with the status of success, and names an error exactly with the others. -/
structure Answer.Unambiguous (answer : Answer) : Prop where
  status : answer.status = 200 ∨ answer.status = 404 ∨ answer.status = 422 ∨ answer.status = 500
  body : ∃ fields, answer.content = .json (.object fields) ∧
    Entries.get? fields "success" = some (.bool (answer.status = 200)) ∧
    (Entries.has fields "error" = true ↔ answer.status ≠ 200)

/-- Rendering leaves an answer as it is or makes a failure of it. -/
theorem rendered_told {σ τ : Type} {served : Served σ τ} {P : Answer → Prop}
    (h : (∃ answer, served.reply = .answered answer ∧ P answer) ∨
      ∃ failure, served.reply = .raised failure) :
    (∃ answer, served.rendered.reply = .answered answer ∧ P answer) ∨
      ∃ failure, served.rendered.reply = .raised failure := by
  rcases h with ⟨answer, hanswer, hP⟩ | ⟨failure, hraised⟩
  · have hreply : served.rendered.reply = rendered answer := by simp [Served.rendered, hanswer]
    rw [hreply]
    rcases rendered_cases answer with ⟨-, hsent⟩ | ⟨-, hraised⟩
    · exact Or.inl ⟨answer, hsent, hP⟩
    · exact Or.inr hraised
  · exact Or.inr ⟨failure, by simp [Served.rendered, hraised]⟩

theorem Answer.Unambiguous.of_sent {answer sent : Answer} (h : answer.Unambiguous)
    (hstatus : sent.status = answer.status) (hcontent : sent.content = answer.content) :
    sent.Unambiguous where
  status := by
    rw [hstatus]
    exact h.status
  body := by
    rw [hstatus, hcontent]
    exact h.body

theorem refusal_unambiguous {status : Int} (h : status = 404 ∨ status = 422 ∨ status = 500)
    (error : String) (now : Instant) : (Answer.refusal status error now).Unambiguous where
  status := Or.inr h
  body := by
    have hne : status ≠ 200 := by omega
    refine ⟨_, rfl, ?_, ?_⟩
    · simp [Answer.refusal, Answer.json, Entries.get?, hne]
    · simp [Answer.refusal, Answer.json, Entries.has, Entries.get?, hne]

section Summary

variable {record : Record} (data : Data)

theorem summary_unambiguous_of_completed (hstatus : record.status = .completed)
    (herror : record.error = none) : (summary record data).Unambiguous where
  status := Or.inl (by simp [summary, Answer.json, hstatus])
  body := by
    refine ⟨_, rfl, ?_, ?_⟩
    · simp [summary, Answer.json, Record.response, Entries.get?, hstatus]
    · simp [summary, Answer.json, Record.response, Entries.has, Entries.get?, hstatus, herror]

theorem summary_unambiguous_of_failed {error : String} (hstatus : record.status = .failed)
    (herror : record.error = some error) (hwords : error ≠ "") :
    (summary record data).Unambiguous where
  status := Or.inr (Or.inr (Or.inr (by simp [summary, Answer.json, hstatus])))
  body := by
    refine ⟨_, rfl, ?_, ?_⟩
    · simp [summary, Answer.json, Record.response, Entries.get?, hstatus]
    · simp [summary, Answer.json, Record.response, Entries.has, Entries.get?, hstatus, herror, hwords]

/-- A run is answered without ambiguity, unless strict JSON has no form for its summary. -/
theorem replyWith_of_coherent (h : record.Coherent) (now : Instant) :
    (∃ answer, replyWith record data now = .answered answer ∧ answer.Unambiguous) ∨
      ∃ failure, replyWith record data now = .raised failure := by
  have hsummed (hkept : turnedAway? record = none)
      (hsummary : (summary record data).Unambiguous) :
      (∃ answer, replyWith record data now = .answered answer ∧ answer.Unambiguous) ∨
        ∃ failure, replyWith record data now = .raised failure := by
    unfold replyWith
    rw [hkept]
    cases record.fault? data with
    | none => exact Or.inl ⟨_, rfl, hsummary⟩
    | some failure => exact Or.inr ⟨failure, rfl⟩
  cases h with
  | completed hstatus herror =>
    exact hsummed (by simp [turnedAway?, hstatus])
      (summary_unambiguous_of_completed data hstatus herror)
  | turnedAway hstatus hturned =>
    obtain ⟨status, hrefused, hturns⟩ : ∃ status, (status = 404 ∨ status = 422 ∨ status = 500) ∧
        turnedAway? record = some status := by
      rcases hturned with hturned | hturned
      · exact ⟨404, Or.inl rfl, by simp [turnedAway?, hstatus, hturned]⟩
      · exact ⟨422, Or.inr (Or.inl rfl), by simp [turnedAway?, hstatus, hturned]⟩
    refine Or.inl ⟨_, ?_, refusal_unambiguous hrefused (record.error.getD "") now⟩
    unfold replyWith
    rw [hturns]
  | failed hstatus herrorStatus herror hwords =>
    exact hsummed (by simp [turnedAway?, hstatus, herrorStatus])
      (summary_unambiguous_of_failed data hstatus herror hwords)

end Summary

/-! ### Requests for a run -/

def Route.AsksForRun (settings : Settings) (path : String) : Prop :=
  (Route.of (settings.apiRoot ++ "/workflows/execute") ["POST"] .run).leadsFrom path = true ∨
    (Route.of "/workflow-orchestrator" ["POST"] .run).leadsFrom path = true

theorem Route.endpoint_of_posted {settings : Settings} {route : Route}
    (hroute : route ∈ Route.all settings) (hmethod : "POST" ∈ route.methods) :
    route.endpoint = .run := by
  have hall : ∀ route ∈ Route.all settings, "POST" ∈ route.methods → route.endpoint = .run := by
    unfold Route.all
    split <;> simp [Route.of, Route.documentation, Route.reports]
  exact hall route hroute hmethod

/-- Whatever other routes a path may be of, none of them is for posting. -/
theorem Route.find_of_asksForRun {settings : Settings} {path : String}
    (h : Route.AsksForRun settings path) :
    Route.find (Route.all settings) "POST" path = .found .run := by
  obtain ⟨route, hroute, hmethods, hleads⟩ : ∃ route ∈ Route.all settings,
      route.methods = ["POST"] ∧ route.leadsFrom path = true := by
    rcases h with hleads | hleads
    · exact ⟨_, by simp [Route.all], rfl, hleads⟩
    · exact ⟨_, by simp [Route.all], rfl, hleads⟩
  have hcandidate : route ∈ (Route.all settings).filter (·.leadsFrom path) :=
    List.mem_filter.mpr ⟨hroute, hleads⟩
  have hposted : route.methods.contains "POST" = true := by simp [hmethods]
  unfold Route.find
  dsimp only
  cases hfound : ((Route.all settings).filter (·.leadsFrom path)).find?
      fun route => route.methods.contains "POST" with
  | none => exact absurd hposted (List.find?_eq_none.mp hfound route hcandidate)
  | some first =>
    have hfirst : first ∈ Route.all settings :=
      (List.mem_filter.mp (List.mem_of_find?_eq_some hfound)).1
    have hmethod : "POST" ∈ first.methods := by simpa using List.find?_some hfound
    exact congrArg Destination.found (Route.endpoint_of_posted hfirst hmethod)

/-- The body of a request is JSON, or it is clear where it is not. -/
def Request.Legible (request : Request) : Prop :=
  ∀ fault, Json.readBytes request.body = .error fault → ∃ position, fault = .unreadable position

theorem Form.exists_read?_of_legible {request : Request} (h : request.Legible) :
    ∃ form, Form.read? request = some form := by
  unfold Form.read?
  split
  · exact ⟨_, rfl⟩
  · split
    · exact ⟨_, rfl⟩
    · cases hbody : Json.readBytes request.body with
      | ok v => exact ⟨_, rfl⟩
      | error fault =>
        obtain ⟨position, rfl⟩ := h fault hbody
        exact ⟨_, rfl⟩

namespace Site

variable {σ τ : Type} {site : Site σ τ}

theorem submit_told (hparsed : site.engine.LooksUpParsed) (runId : String) (submission : Submission)
    (stage : Stage σ) (sink : τ)
    (hends : ∀ request, submission.accept = .ok request →
      ¬ site.engine.HangsOpenly runId request stage sink) :
    (∃ answer, (site.submit runId submission stage sink).reply = .answered answer ∧
        answer.Unambiguous) ∨
      ∃ failure, (site.submit runId submission stage sink).reply = .raised failure := by
  obtain ⟨hrefused, hran⟩ :=
    Engine.run_ends_in_one_shape hparsed runId submission stage sink
  cases haccept : submission.accept with
  | error error =>
    obtain ⟨-, hrun⟩ := hrefused error haccept
    refine Or.inl ⟨_, ?_, refusal_unambiguous (Or.inr (Or.inl rfl)) error.message (site.now stage)⟩
    simp [submit, hrun, replyTo, RequestError.toFailure, Failure.status?, Failure.message]
  | ok request =>
    obtain ⟨record, data, order, shape, hending, hcause, hshape, -⟩ :=
      hran request haccept (hends request haccept)
    have hreply : (site.submit runId submission stage sink).reply
        = replyWith record data (site.now (site.engine.run runId submission stage sink).stage) := by
      simp [submit, hending]
    rw [hreply]
    exact replyWith_of_coherent data (hcause.coherent hshape) _

/-- **The answer to a submission is never ambiguous.** A request for a run whose body is JSON, or clearly
not JSON, is answered with status 200, 404, 422 or 500; the body says success exactly with status 200 and
names an error exactly with the others. So it is for any engine, as long as its run does not hang with
nothing to end that. -/
theorem submission_answered_unambiguously (site : Site σ τ) (hparsed : site.engine.LooksUpParsed)
    (ids : FreshIds) (request : Request) (stage : Stage σ) (sink : τ)
    (hmethod : request.method = "POST") (hpath : Route.AsksForRun site.settings request.path)
    (hlegible : request.Legible)
    (hends : ∀ submission accepted, Form.read? request = some (.valid submission) →
      submission.accept = .ok accepted → ¬ site.engine.HangsOpenly ids.run accepted stage sink) :
    ∃ answer, (site.respond ids request stage sink).reply = .answered answer ∧
      answer.Unambiguous := by
  have hroute : Route.find (Route.all site.settings) request.method request.path = .found .run := by
    rw [hmethod]
    exact Route.find_of_asksForRun hpath
  -- What the endpoint does not answer itself is told as a failure further out, with a body of its own.
  have hdispatch : (∃ answer, (site.dispatch ids.run request stage sink).reply = .answered answer ∧
        answer.Unambiguous) ∨
      ∃ failure, (site.dispatch ids.run request stage sink).reply = .raised failure := by
    obtain ⟨form, hform⟩ := Form.exists_read?_of_legible hlegible
    simp only [dispatch, hroute, serve, hform]
    cases form with
    | invalid issues =>
      exact Or.inl ⟨_, rfl, refusal_unambiguous (Or.inr (Or.inl rfl)) _ _⟩
    | valid submission =>
      exact submit_told hparsed ids.run submission stage sink fun accepted haccept =>
        hends submission accepted hform haccept
  rcases rendered_told hdispatch with ⟨answer, hanswer, hunambiguous⟩ | ⟨failure, hraised⟩
  · obtain ⟨sent, hsent, hstatus, hcontent⟩ := respond_of_answered hmethod hanswer
    exact ⟨sent, hsent, hunambiguous.of_sent hstatus hcontent⟩
  · obtain ⟨sent, now, hsent, hstatus, hcontent⟩ := respond_of_raised_refusal hmethod hraised
    have hrefusal := refusal_unambiguous (Or.inr (Or.inr rfl)) (disclosure site.settings failure) now
    exact ⟨sent, hsent, hrefusal.of_sent hstatus hcontent⟩

end Site

end Web

namespace Sample

open Web

theorem posted_asksForRun (data : String) (engine : Engine Unit Unit) :
    ∃ settings, Settings.load [] [] = .valid settings ∧
      Route.AsksForRun (site settings engine).settings (posted data).path := by
  have hasks : ∃ settings, Settings.load [] [] = .valid settings ∧
      Route.AsksForRun settings "/workflow-orchestrator" :=
    ⟨_, rfl, Or.inr (by decide +kernel)⟩
  exact hasks

theorem passing_one_answered_unambiguously :
    ∃ settings answer, Settings.load [] [] = .valid settings ∧
      (passingEngine false).LooksUpParsed ∧ (posted "1").method = "POST" ∧
      Route.AsksForRun (site settings (passingEngine false)).settings (posted "1").path ∧
      (posted "1").Legible ∧
      ((site settings (passingEngine false)).respond ⟨"run", "request"⟩ (posted "1") (.start ()) ()).reply
        = .answered answer ∧
      answer.Unambiguous := by
  obtain ⟨settings, hload, hpath⟩ := posted_asksForRun "1" (passingEngine false)
  have hparsed : (passingEngine false).LooksUpParsed := passingEngine_looksUpParsed false
  have hlegible : (posted "1").Legible := by
    intro fault hfault
    have hbody : ∃ v, Json.readBytes (posted "1").body = .ok v := ⟨_, rfl⟩
    obtain ⟨v, hbody⟩ := hbody
    rw [hbody] at hfault
    cases hfault
  obtain ⟨answer, hanswer, hunambiguous⟩ :=
    Site.submission_answered_unambiguously (site settings (passingEngine false)) hparsed
      ⟨"run", "request"⟩ (posted "1") (.start ()) () rfl hpath hlegible
      fun submission accepted _ _ => Engine.not_hangsOpenly_of_responsive rfl collaborators_responsive
        (by simp [site, passingEngine, engineFor, Engine.knowing])
  exact ⟨settings, answer, hload, hparsed, rfl, hpath, hlegible, hanswer, hunambiguous⟩

end Sample

end Runbook
