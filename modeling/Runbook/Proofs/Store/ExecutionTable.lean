import Runbook.Proofs.Recorder
import Runbook.Proofs.Store.Column
import Runbook.Store.ExecutionTable

/-!
# The execution log only grows

A posting to the log either is refused and leaves the tables as they are, or adds one row at the end of
one table. So after any postings the tables hold the rows of the accepted ones in order, and of the
runs posted under one id only the first is accepted.
-/

namespace Runbook

namespace Store

open ExecutionTables

/-- Something handed to the log: a run or a step by its fields, or as a recorder hands it over. -/
inductive Posting where
  | run (fields : Value.Fields)
  | step (fields : Value.Fields)
  | recorded (call : SinkCall)

namespace Posting

def post (tables : ExecutionTables) : Posting → Option Failure × ExecutionTables
  | .run fields => tables.settled (tables.append fields)
  | .step fields => tables.settled (tables.appendStep fields)
  | .recorded (.append entry) => sink.append entry tables
  | .recorded (.appendStep entry) => sink.appendStep entry tables

def runFields? : Posting → Option Value.Fields
  | .run fields => some fields
  | .recorded (.append entry) => some (entry.record.logEntry (stored entry.data))
  | _ => none

def stepFields? : Posting → Option Value.Fields
  | .step fields => some fields
  | .recorded (.appendStep entry) => some (entry.fields (stored entry.data))
  | _ => none

/-- The row that a posted run is written as. -/
def runRow? (posting : Posting) : Option ExecutionRow :=
  posting.runFields?.bind fun fields => (ExecutionRow.ofFields fields).toOption

def stepRow? (posting : Posting) : Option StepRow :=
  posting.stepFields?.bind fun fields => (StepRow.ofFields fields).toOption

end Posting

/-- The tables after some postings, one after the other. -/
def postAll (tables : ExecutionTables) (postings : List Posting) : ExecutionTables :=
  postings.foldl (fun tables posting => (posting.post tables).2) tables

def accepted (tables : ExecutionTables) : List Posting → List Posting
  | [] => []
  | posting :: rest => match posting.post tables with
    | (none, next) => posting :: accepted next rest
    | (some _, next) => accepted next rest

variable {tables : ExecutionTables} {fields : Value.Fields}

/-- The names that a run cannot be written without. -/
def neededNames : List String :=
  ["execution_id", "workflow_id", "user_id", "trigger", "status"]

/-- The first needed name that the fields lack. -/
def lackedName? (fields : Value.Fields) : Option String :=
  neededNames.find? fun name => !Entries.has fields name

/-! ### One posting -/

theorem insert_of_present {row : ExecutionRow}
    (h : row.executionId ∈ tables.executions.map (·.executionId)) :
    tables.insert row = .error (.refused (.duplicate "execution_id")) := by
  have htaken : tables.executions.any (fun other => other.executionId == row.executionId) = true := by
    simpa using h
  rw [ExecutionTables.insert, if_pos htaken]

theorem insert_of_fresh {row : ExecutionRow}
    (h : row.executionId ∉ tables.executions.map (·.executionId)) :
    tables.insert row = .ok { tables with executions := tables.executions ++ [row] } := by
  have hfree : ¬ tables.executions.any (fun other => other.executionId == row.executionId) = true := by
    simpa using h
  rw [ExecutionTables.insert, if_neg hfree]

theorem settled_append_cases (tables : ExecutionTables) (fields : Value.Fields) :
    (∃ failure, tables.settled (tables.append fields) = (some failure, tables)) ∨
      ∃ row, ExecutionRow.ofFields fields = .ok row ∧
        row.executionId ∉ tables.executions.map (·.executionId) ∧
        tables.settled (tables.append fields)
          = (none, { tables with executions := tables.executions ++ [row] }) := by
  unfold ExecutionTables.append
  cases hrow : ExecutionRow.ofFields fields with
  | error fault => exact Or.inl ⟨_, rfl⟩
  | ok row =>
    by_cases hpresent : row.executionId ∈ tables.executions.map (·.executionId)
    · simp [Except.bind, insert_of_present hpresent, settled]
    · refine Or.inr ⟨row, rfl, hpresent, ?_⟩
      simp [Except.bind, insert_of_fresh hpresent, settled]

theorem settled_appendStep_cases (tables : ExecutionTables) (fields : Value.Fields) :
    (∃ failure, tables.settled (tables.appendStep fields) = (some failure, tables)) ∨
      ∃ row, StepRow.ofFields fields = .ok row ∧
        tables.settled (tables.appendStep fields)
          = (none, { tables with steps := tables.steps ++ [row] }) := by
  unfold ExecutionTables.appendStep
  cases hrow : StepRow.ofFields fields with
  | error fault => exact Or.inl ⟨_, rfl⟩
  | ok row => exact Or.inr ⟨row, rfl, rfl⟩

namespace Posting

variable {posting : Posting}

theorem isRun_or_isStep (posting : Posting) :
    (∃ fields, posting.runFields? = some fields ∧ posting.stepFields? = none) ∨
      ∃ fields, posting.stepFields? = some fields ∧ posting.runFields? = none := by
  rcases posting with fields | fields | (entry | entry)
  · exact Or.inl ⟨_, rfl, rfl⟩
  · exact Or.inr ⟨_, rfl, rfl⟩
  · exact Or.inl ⟨_, rfl, rfl⟩
  · exact Or.inr ⟨_, rfl, rfl⟩

/-- A run that a recorder hands over is posted by its fields, unless it contains itself. -/
theorem post_of_runFields (h : posting.runFields? = some fields) (tables : ExecutionTables) :
    posting.post tables = tables.settled (tables.append fields) ∨
      lackedName? fields = none ∧ ∃ words, posting.post tables = (some (.recorder words), tables) := by
  rcases posting with given | given | (entry | entry)
  · cases h
    exact Or.inl rfl
  · cases h
  · cases h
    simp only [post, sink]
    split
    · exact Or.inr ⟨rfl, _, rfl⟩
    · exact Or.inl rfl
  · cases h

theorem post_of_stepFields (h : posting.stepFields? = some fields) (tables : ExecutionTables) :
    posting.post tables = tables.settled (tables.appendStep fields) ∨
      ∃ failure, posting.post tables = (some failure, tables) := by
  rcases posting with given | given | (entry | entry)
  · cases h
  · cases h
    exact Or.inl rfl
  · cases h
  · cases h
    simp only [post, sink]
    split
    · exact Or.inr ⟨_, rfl⟩
    · exact Or.inl rfl

/-- A posting is refused and changes nothing, or adds its row at the end of one table. -/
theorem post_cases (posting : Posting) (tables : ExecutionTables) :
    (∃ failure, posting.post tables = (some failure, tables)) ∨
      (∃ row, posting.runRow? = some row ∧ posting.stepRow? = none ∧
        row.executionId ∉ tables.executions.map (·.executionId) ∧
        posting.post tables = (none, { tables with executions := tables.executions ++ [row] })) ∨
      ∃ row, posting.stepRow? = some row ∧ posting.runRow? = none ∧
        posting.post tables = (none, { tables with steps := tables.steps ++ [row] }) := by
  rcases posting.isRun_or_isStep with ⟨fields, hfields, hother⟩ | ⟨fields, hfields, hother⟩
  · rcases post_of_runFields hfields tables with hpost | ⟨-, words, hpost⟩
    · rcases settled_append_cases tables fields with ⟨failure, hrefused⟩ | ⟨row, hrow, hfresh, hadded⟩
      · exact Or.inl ⟨failure, hpost.trans hrefused⟩
      · refine Or.inr (Or.inl ⟨row, ?_, ?_, hfresh, hpost.trans hadded⟩)
        · simp [runRow?, hfields, hrow, Except.toOption]
        · simp [stepRow?, hother]
    · exact Or.inl ⟨_, hpost⟩
  · rcases post_of_stepFields hfields tables with hpost | hrefused
    · rcases settled_appendStep_cases tables fields with ⟨failure, hrefused⟩ | ⟨row, hrow, hadded⟩
      · exact Or.inl ⟨failure, hpost.trans hrefused⟩
      · refine Or.inr (Or.inr ⟨row, ?_, ?_, hpost.trans hadded⟩)
        · simp [stepRow?, hfields, hrow, Except.toOption]
        · simp [runRow?, hother]
    · exact Or.inl hrefused

end Posting

/-! ### Any number of postings -/

theorem postAll_cons (tables : ExecutionTables) (posting : Posting) (rest : List Posting) :
    postAll tables (posting :: rest) = postAll (posting.post tables).2 rest := rfl

/-- The tables after some postings hold the rows of those accepted, behind the rows from before. -/
theorem postAll_eq (tables : ExecutionTables) (postings : List Posting) :
    postAll tables postings =
      { executions := tables.executions ++ (accepted tables postings).filterMap Posting.runRow?
        steps := tables.steps ++ (accepted tables postings).filterMap Posting.stepRow? } := by
  induction postings generalizing tables with
  | nil => simp [postAll, accepted]
  | cons posting rest ih =>
    rw [postAll_cons, ih, accepted]
    rcases posting.post_cases tables with
      ⟨failure, hpost⟩ | ⟨row, hrun, hnone, -, hpost⟩ | ⟨row, hstep, hnone, hpost⟩
    · simp [hpost]
    · simp [hpost, hrun, hnone]
    · simp [hpost, hstep, hnone]

theorem nodup_postAll (h : (tables.executions.map (·.executionId)).Nodup) (postings : List Posting) :
    ((postAll tables postings).executions.map (·.executionId)).Nodup := by
  induction postings generalizing tables with
  | nil => exact h
  | cons posting rest ih =>
    rw [postAll_cons]
    apply ih
    rcases posting.post_cases tables with
      ⟨failure, hpost⟩ | ⟨row, -, -, hfresh, hpost⟩ | ⟨row, -, -, hpost⟩
    · simpa [hpost] using h
    · rw [hpost, List.map_append, List.nodup_append]
      refine ⟨h, by simp, ?_⟩
      rintro id hid other hother rfl
      obtain rfl : id = row.executionId := by simpa using hother
      exact hfresh hid
    · simpa [hpost] using h

/-- Where no key comes twice, the rows under a key are the first one under it. -/
theorem filter_eq_find?_of_nodup {rows : List ExecutionRow}
    (h : (rows.map (·.executionId)).Nodup) (id : String) :
    rows.filter (fun row => row.executionId == id)
      = (rows.find? fun row => row.executionId == id).toList := by
  induction rows with
  | nil => rfl
  | cons row rest ih =>
    obtain ⟨hfresh, hrest⟩ := List.nodup_cons.mp h
    by_cases hid : row.executionId = id
    · have hothers : rest.filter (fun row => row.executionId == id) = [] := by
        rw [List.filter_eq_nil_iff]
        intro other hother hsame
        exact hfresh (List.mem_map.mpr ⟨other, hother, (eq_of_beq hsame).trans hid.symm⟩)
      simp [hid, hothers]
    · simp [hid, ih hrest]

/-! ### Refusals -/

/-- A result with a property, or a refusal that is told as a failure to record. -/
def Settles {α : Type} (P : α → Prop) : Except EntryFault α → Prop
  | .ok a => P a
  | .error fault => ∃ refusal : ColumnFault, fault = .refused refusal ∧ refusal.isRecorded = true

section Settles

variable {α β : Type}

theorem Settles.bind {P : α → Prop} {Q : β → Prop} {result : Except EntryFault α}
    {next : α → Except EntryFault β} (hresult : Settles P result)
    (hnext : ∀ a, P a → Settles Q (next a)) : Settles Q (result >>= next) := by
  cases result with
  | ok a => exact hnext a hresult
  | error fault => exact hresult

theorem settles_column {result : Except ColumnFault α} (h : Takes result) :
    Settles (fun a => result = .ok a) (column result) := by
  cases result with
  | ok a => rfl
  | error fault => exact ⟨fault, rfl, h fault rfl⟩

end Settles

/-- The columns of a run that hold texts and numbers. -/
def plainColumns : List String :=
  ["execution_id", "workflow_id", "user_id", "trigger", "status", "error", "execution_time",
    "steps_completed", "total_steps"]

def FitsColumns (fields : Value.Fields) : Prop :=
  ∀ name ∈ plainColumns, ∀ v, Entries.get? fields name = some v → FitsColumn v

theorem FitsColumns.optionalField (h : FitsColumns fields) (name : String)
    (hname : name ∈ plainColumns) : FitsColumn (optionalField fields name .null) := by
  unfold ExecutionTables.optionalField
  cases hget : Entries.get? fields name with
  | none => trivial
  | some v => exact h name hname v hget

theorem settles_ofFields (hnames : lackedName? fields = none) (hfits : FitsColumns fields) :
    Settles (fun row => ∃ v, Entries.get? fields "execution_id" = some v ∧
      text "execution_id" none v = .ok row.executionId) (ExecutionRow.ofFields fields) := by
  have hhas : ∀ name ∈ neededNames, Entries.has fields name = true := by
    simpa [lackedName?] using hnames
  have hcolumns : ∀ name ∈ neededNames, name ∈ plainColumns := by decide
  have hneeded : ∀ name ∈ neededNames,
      Settles (fun v => Entries.get? fields name = some v ∧ FitsColumn v) (needed fields name) := by
    intro name hname
    obtain ⟨v, hv⟩ := Option.isSome_iff_exists.mp (hhas name hname)
    simp [Settles, needed, hv, hfits name (hcolumns name hname) v hv]
  unfold ExecutionRow.ofFields
  refine (hneeded "execution_id" (by decide)).bind fun executionId hexecutionId => ?_
  refine (hneeded "workflow_id" (by decide)).bind fun workflowId hworkflowId => ?_
  refine (hneeded "user_id" (by decide)).bind fun userId huserId => ?_
  refine (hneeded "trigger" (by decide)).bind fun trigger htrigger => ?_
  refine (hneeded "status" (by decide)).bind fun status hstatus => ?_
  have hid := takes_text hexecutionId.2 "execution_id" none
  have hworkflow := takes_text hworkflowId.2 "workflow_id" none
  have huser := takes_text huserId.2 "user_id" none
  have htriggered := takes_text htrigger.2 "trigger" (some "manual")
  have hended := takes_text hstatus.2 "status" (some "completed")
  have herror := takes_optionalText (hfits.optionalField "error" (by decide)) "error"
  have htime := takes_integer (hfits.optionalField "execution_time" (by decide)) "execution_time"
  have hsteps := takes_integer (hfits.optionalField "steps_completed" (by decide)) "steps_completed"
  have htotal := takes_integer (hfits.optionalField "total_steps" (by decide)) "total_steps"
  -- All columns are checked at once before any is read, so that the first fault found is reported.
  refine (settles_column (takes_checkAll ?_)).bind fun _ _ => ?_
  · simp only [List.forall_mem_cons, List.not_mem_nil, false_imp_iff, implies_true, and_true]
    exact ⟨isRecorded_of_mem_faultOf hid, isRecorded_of_mem_faultOf hworkflow,
      isRecorded_of_mem_faultOf huser, isRecorded_of_mem_faultOf htriggered,
      isRecorded_of_mem_faultOf hended, isRecorded_of_mem_faultOf herror,
      isRecorded_of_mem_faultOf htime, isRecorded_of_mem_faultOf hsteps,
      isRecorded_of_mem_faultOf htotal⟩
  refine (settles_column hid).bind fun storedId hstored => ?_
  refine (settles_column hworkflow).bind fun _ _ => ?_
  refine (settles_column huser).bind fun _ _ => ?_
  refine (settles_column htriggered).bind fun _ _ => ?_
  refine (settles_column hended).bind fun _ _ => ?_
  refine (settles_column herror).bind fun _ _ => ?_
  refine (settles_column htime).bind fun _ _ => ?_
  refine (settles_column hsteps).bind fun _ _ => ?_
  refine (settles_column htotal).bind fun _ _ => ?_
  exact ⟨executionId, hexecutionId.1, hstored⟩

theorem exists_toFailure_eq {refusal : ColumnFault} (h : refusal.isRecorded = true) (what : String) :
    ∃ words, (EntryFault.refused refusal).toFailure what = .recorder words := by
  cases refusal with
  | tooLarge => cases h
  | notUtf8 complaint => cases h
  | _ => exact ⟨_, rfl⟩

/-- The result is the failure over the first of the names that the fields lack, if they lack one. -/
def StopsAtLacked {α : Type} (fields : Value.Fields) (names : List String)
    (result : Except EntryFault α) : Prop :=
  ∀ name, names.find? (fun name => !Entries.has fields name) = some name →
    result = .error (.missing name)

theorem stopsAtLacked_nil {α : Type} (result : Except EntryFault α) :
    StopsAtLacked fields [] result := by
  rintro name ⟨⟩

theorem stopsAtLacked_needed {α : Type} {first : String} {names : List String}
    {next : Value → Except EntryFault α} (hnext : ∀ v, StopsAtLacked fields names (next v)) :
    StopsAtLacked fields (first :: names) (needed fields first >>= next) := by
  intro name hname
  unfold needed
  cases hget : Entries.get? fields first with
  | none =>
    obtain rfl : first = name := by simpa [Entries.has, hget] using hname
    rfl
  | some v => exact hnext v name (by simpa [Entries.has, hget] using hname)

theorem ofFields_of_lacked {name : String} (h : lackedName? fields = some name) :
    ExecutionRow.ofFields fields = .error (.missing name) := by
  have hstops : StopsAtLacked fields neededNames (ExecutionRow.ofFields fields) :=
    stopsAtLacked_needed fun _ => stopsAtLacked_needed fun _ => stopsAtLacked_needed fun _ =>
      stopsAtLacked_needed fun _ => stopsAtLacked_needed fun _ => stopsAtLacked_nil _
  exact hstops name h

theorem Posting.post_of_lacked {posting : Posting} (h : posting.runFields? = some fields)
    (tables : ExecutionTables) {name : String} (hname : lackedName? fields = some name) :
    (posting.post tables).1 = some (.other "KeyError" s!"'{name}'") := by
  rcases post_of_runFields h tables with hpost | ⟨hcomplete, -⟩
  · rw [hpost, ExecutionTables.append, ofFields_of_lacked hname]
    rfl
  · rw [hname] at hcomplete
    cases hcomplete

/-- A run under an id that is there already fails to be recorded, whatever else it holds. -/
theorem Posting.post_of_present {posting : Posting} (h : posting.runFields? = some fields)
    {v : Value} {id : String} (hget : Entries.get? fields "execution_id" = some v)
    (hid : text "execution_id" none v = .ok id)
    (hpresent : id ∈ tables.executions.map (·.executionId))
    (hnames : lackedName? fields = none) (hfits : FitsColumns fields) :
    ∃ words, (posting.post tables).1 = some (.recorder words) := by
  rcases post_of_runFields h tables with hpost | ⟨-, words, hpost⟩
  · have hsettles := settles_ofFields hnames hfits
    rw [hpost, ExecutionTables.append]
    cases hrow : ExecutionRow.ofFields fields with
    | error fault =>
      rw [hrow] at hsettles
      obtain ⟨refusal, rfl, hrefusal⟩ := hsettles
      obtain ⟨words, hwords⟩ := exists_toFailure_eq hrefusal
        ("execution " ++ nameIn fields "execution_id")
      exact ⟨words, congrArg some hwords⟩
    | ok row =>
      rw [hrow] at hsettles
      obtain ⟨found, hfound, hstored⟩ := hsettles
      obtain rfl : v = found := Option.some.inj (hget.symm.trans hfound)
      obtain rfl : id = row.executionId := Except.ok.inj (hid.symm.trans hstored)
      simp [Except.bind, insert_of_present hpresent, settled, EntryFault.toFailure]
  · exact ⟨words, by rw [hpost]⟩

/-- The row of a run that a recorder hands over: what its record says. -/
def recordedRow (entry : RunEntry) : ExecutionRow where
  executionId := entry.record.executionId
  workflowId := entry.record.workflowId
  userId := entry.record.userId
  trigger := entry.record.trigger.name
  status := entry.record.status.name
  results := entry.record.resultsValue (stored entry.data)
  error := entry.record.error
  executionTime := .int entry.record.executionTimeMs
  stepsCompleted := .int entry.record.stepsCompleted
  totalSteps := .int entry.record.totalSteps
  metadata := .object entry.record.metadata

theorem runRow?_recorded (entry : RunEntry)
    (hfits : FitsColumns (entry.record.logEntry (stored entry.data))) :
    (Posting.recorded (.append entry)).runRow? = some (recordedRow entry) := by
  have hid : Text.isEncodable entry.record.executionId = true :=
    hfits "execution_id" (by decide) (.string _) rfl
  have hworkflow : Text.isEncodable entry.record.workflowId = true :=
    hfits "workflow_id" (by decide) (.string _) rfl
  have huser : Text.isEncodable entry.record.userId = true :=
    hfits "user_id" (by decide) (.string _) rfl
  have htrigger : Text.isEncodable entry.record.trigger.name = true :=
    hfits "trigger" (by decide) (.string _) rfl
  have hstatus : Text.isEncodable entry.record.status.name = true :=
    hfits "status" (by decide) (.string _) rfl
  have htime : fitsColumn entry.record.executionTimeMs = true :=
    hfits "execution_time" (by decide) (.int _) rfl
  have hsteps : fitsColumn entry.record.stepsCompleted = true :=
    hfits "steps_completed" (by decide) (.int _) rfl
  have htotal : fitsColumn entry.record.totalSteps = true :=
    hfits "total_steps" (by decide) (.int _) rfl
  have herror : optionalText "error" (.optionalText entry.record.error) = .ok entry.record.error := by
    have htext := hfits "error" (by decide) (.optionalText entry.record.error) rfl
    cases herror : entry.record.error with
    | none => rfl
    | some error =>
      rw [herror] at htext
      rw [Value.optionalText, Value.ofOption, optionalText, encoded_of_isEncodable htext]
      rfl
  have hinteger : ∀ name n, fitsColumn n = true → integer name (.int n) = .ok (.int n) := by
    intro name n hn
    simp [integer, Value.int, hn]
  have hrow : ExecutionRow.ofFields (entry.record.logEntry (stored entry.data))
      = .ok (recordedRow entry) := by
    simp only [ExecutionRow.ofFields, needed, Record.logEntry, Entries.get?, String.reduceEq,
      ↓reduceIte, bind, Except.bind, optionalField, Option.getD_some, text_of_isEncodable hid,
      text_of_isEncodable hworkflow, text_of_isEncodable huser, text_of_isEncodable htrigger,
      text_of_isEncodable hstatus, herror, hinteger _ _ htime, hinteger _ _ hsteps,
      hinteger _ _ htotal]
    rfl
  simp [Posting.runRow?, Posting.runFields?, hrow, Except.toOption]

/-- After any postings the tables hold the rows of the accepted ones in order, for each id the row of
the first accepted run. A posting is refused and changes nothing, or adds one row behind the others. A
run that lacks a needed name is refused by that name; one under an id that is there already fails to be
recorded, if its numbers and texts fit the columns. What a recorder hands over is written as it is, if
it fits. -/
theorem log_grows_by_accepted_rows :
    (∀ postings : List Posting,
      postAll .empty postings =
        { executions := (accepted .empty postings).filterMap Posting.runRow?
          steps := (accepted .empty postings).filterMap Posting.stepRow? } ∧
      ∀ id, (postAll .empty postings).executions.filter (fun row => row.executionId == id)
        = (((accepted .empty postings).filterMap Posting.runRow?).find? fun row =>
            row.executionId == id).toList) ∧
    (∀ (posting : Posting) (tables : ExecutionTables),
      (∃ failure, posting.post tables = (some failure, tables)) ∨
        (∃ row, posting.runRow? = some row ∧ posting.stepRow? = none ∧
          row.executionId ∉ tables.executions.map (·.executionId) ∧
          posting.post tables = (none, { tables with executions := tables.executions ++ [row] })) ∨
        ∃ row, posting.stepRow? = some row ∧ posting.runRow? = none ∧
          posting.post tables = (none, { tables with steps := tables.steps ++ [row] })) ∧
    (∀ (posting : Posting) (tables : ExecutionTables) (fields : Value.Fields),
      posting.runFields? = some fields →
        (∀ name, lackedName? fields = some name →
          (posting.post tables).1 = some (.other "KeyError" s!"'{name}'")) ∧
        ∀ v id, Entries.get? fields "execution_id" = some v → text "execution_id" none v = .ok id →
          id ∈ tables.executions.map (·.executionId) →
          lackedName? fields = none → FitsColumns fields →
            ∃ words, (posting.post tables).1 = some (.recorder words)) ∧
    ∀ entry : RunEntry, FitsColumns (entry.record.logEntry (stored entry.data)) →
      (Posting.recorded (.append entry)).runRow? = some (recordedRow entry) := by
  refine ⟨fun postings => ?_, Posting.post_cases, fun posting tables fields hfields => ?_,
    runRow?_recorded⟩
  · have hrows : postAll .empty postings =
        { executions := (accepted .empty postings).filterMap Posting.runRow?
          steps := (accepted .empty postings).filterMap Posting.stepRow? } := by
      rw [postAll_eq]
      rfl
    refine ⟨hrows, fun id => ?_⟩
    have hempty : (ExecutionTables.empty.executions.map (·.executionId)).Nodup := List.nodup_nil
    have hnodup := nodup_postAll hempty postings
    rw [filter_eq_find?_of_nodup hnodup, hrows]
  · exact ⟨fun _ => Posting.post_of_lacked hfields tables,
      fun _ _ => Posting.post_of_present hfields⟩

end Store

namespace Sample

open Store

/-- A run with the names that it needs and nothing else. -/
def logged : Value.Fields :=
  [("execution_id", .string "e1"), ("workflow_id", .string "wf"), ("user_id", .string "u"),
    ("trigger", .string "manual"), ("status", .string "completed")]

theorem logged_again_refused :
    (postAll .empty [.run logged, .step [], .run logged]).executions.length = 1 ∧
      Entries.get? logged "execution_id" = some (.string "e1") ∧
      "e1" ∈ (postAll .empty [.run logged]).executions.map (·.executionId) ∧
      lackedName? logged = none ∧ FitsColumns logged ∧
      ∃ words, ((Posting.run logged).post (postAll .empty [.run logged])).1
        = some (.recorder words) := by
  have hpresent : "e1" ∈ (postAll .empty [.run logged]).executions.map (·.executionId) := by
    decide
  have hfits : FitsColumns logged := by
    intro name _ v hget
    have hmem := Entries.mem_of_get? hget
    simp only [logged, List.mem_cons, Prod.mk.injEq, List.not_mem_nil, or_false] at hmem
    rcases hmem with ⟨-, rfl⟩ | ⟨-, rfl⟩ | ⟨-, rfl⟩ | ⟨-, rfl⟩ | ⟨-, rfl⟩ <;> decide
  obtain ⟨hrows, -, hrefused, -⟩ := log_grows_by_accepted_rows
  refine ⟨?_, rfl, hpresent, rfl, hfits, ?_⟩
  · rw [(hrows [.run logged, .step [], .run logged]).1]
    rfl
  · exact (hrefused (.run logged) _ logged rfl).2 _ "e1" rfl rfl hpresent rfl hfits

/-- The same run without the names of its workflow and its user. -/
def namelessRepeat : Value.Fields :=
  [("execution_id", .string "e1"), ("trigger", .string "manual"), ("status", .string "completed")]

/-- The same run with a number of steps that no column holds. -/
def boundlessRepeat : Value.Fields :=
  logged ++ [("total_steps", .int Number.wordLimit)]

/-- The same run with a surrogate that stands alone in place of its workflow's id. -/
def surrogateRepeat : Value.Fields :=
  [("execution_id", .string "e1"), ("workflow_id", .string (String.ofList (Text.ofCode 0xD800))),
    ("user_id", .string "u"), ("trigger", .string "manual"), ("status", .string "completed")]

/-- Not every run under an id that is there already fails to be recorded. -/
theorem repeats_otherwise_refused :
    "e1" ∈ (postAll .empty [.run logged]).executions.map (·.executionId) ∧
      ((Posting.run namelessRepeat).post (postAll .empty [.run logged])).1
        = some (.other "KeyError" "'workflow_id'") ∧
      ((Posting.run boundlessRepeat).post (postAll .empty [.run logged])).1
        = some ColumnFault.tooLarge.toFailure ∧
      ((Posting.run surrogateRepeat).post (postAll .empty [.run logged])).1
        = some (.other "UnicodeEncodeError"
          "'utf-8' codec can't encode character '\\ud800' in position 0: surrogates not allowed") ∧
      ¬ ∀ before fields id, Entries.get? fields "execution_id" = some (.string id) →
        id ∈ (postAll .empty before).executions.map (·.executionId) →
          ∃ words, ((Posting.run fields).post (postAll .empty before)).1
            = some (.recorder words) := by
  have hpresent : "e1" ∈ (postAll .empty [.run logged]).executions.map (·.executionId) := by
    decide
  have hnameless : ((Posting.run namelessRepeat).post (postAll .empty [.run logged])).1
      = some (.other "KeyError" "'workflow_id'") := rfl
  refine ⟨hpresent, hnameless, rfl, by decide, fun hall => ?_⟩
  obtain ⟨words, hwords⟩ := hall [.run logged] namelessRepeat "e1" rfl hpresent
  rw [hnameless] at hwords
  cases hwords

end Sample

end Runbook
