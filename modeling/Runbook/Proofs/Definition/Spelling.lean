import Mathlib.Logic.Relation
import Runbook.Proofs.Definition.Reporting
import Runbook.Proofs.Schema.Congruence

/-!
# Spellings of a definition

The objects in a definition are read by the names of their fields alone. Fields of other names and the
order of the fields have no influence, not even on the words of a failure; neither has a field that is
overruled by its alias. What is accepted is also accepted, and means the same, without the aliases.
-/

namespace Runbook

open Schema

/-- The kinds of objects that a definition is made of. -/
inductive ObjectKind where
  | definition
  | step
  | config (type : StepType)
  | fieldMatch
  | fieldMapping
  | clause
deriving DecidableEq

namespace ObjectKind

def Content : ObjectKind → Type
  | .definition => Definition
  | .step => Step
  | .config _ => StepConfig
  | .fieldMatch => FieldMatch
  | .fieldMapping => FieldMapping
  | .clause => Clause

def decode : (kind : ObjectKind) → Decoder kind.Content
  | .definition => Definition.decodeFields
  | .step => Step.decode
  | .config type => StepConfig.decode type
  | .fieldMatch => FieldMatch.decode
  | .fieldMapping => FieldMapping.decode
  | .clause => Clause.decode

/-- The names of each field; an alias stands before the name that it is for. -/
def fields : ObjectKind → List (List String)
  | .definition => [["id"], ["name"], ["steps"]]
  | .step => [["id"], ["name"], ["dependencies"], ["timeout"], ["type"], ["config"]]
  | .config .aiProcessing => [["prompt"], ["useCase", "use_case"], ["provider"]]
  | .config .dataTransformation => [["transformation"], ["conditions"], ["mappings"],
    ["groupBy", "group_by"], ["source"], ["replaceData", "replace_data"]]
  | .config .notification => [["channel"], ["template"], ["recipients"]]
  | .config .apiCall => [["url"], ["method"], ["headers"], ["bodyTemplate", "body_template"]]
  | .config .condition => [["conditions"], ["operator"]]
  | .fieldMatch => [["field"], ["value"]]
  | .fieldMapping => [["source"], ["target"]]
  | .clause => [["field"], ["operator"], ["value"]]

/-- The fields that hold lists of objects, and of which kind these are. -/
def lists : ObjectKind → List (String × ObjectKind)
  | .definition => [("steps", .step)]
  | .config .dataTransformation => [("conditions", .fieldMatch), ("mappings", .fieldMapping)]
  | .config .condition => [("conditions", .clause)]
  | _ => []

end ObjectKind

/-! ### Changes to one object -/

/-- Two spellings of an object that differ in what nobody reads: a field of an unknown name, the order of
the fields, or a field that is overruled by its alias. -/
inductive Noise (kind : ObjectKind) : Value.Fields → Value.Fields → Prop where
  | unknown {front back : Value.Fields} {key : String} {v : Value}
      (hkey : ∀ names ∈ kind.fields, key ∉ names) :
      Noise kind (front ++ back) (front ++ (key, v) :: back)
  | permuted {fields others : Value.Fields} (hkeys : (Entries.keys fields).Nodup)
      (hperm : fields.Perm others) : Noise kind fields others
  | overruled {front back : Value.Fields} {nickname name : String} {v : Value}
      (hnames : [nickname, name] ∈ kind.fields) (hnickname : nickname ∈ Entries.keys (front ++ back)) :
      Noise kind (front ++ back) (front ++ (name, v) :: back)

/-- The fields with what was under an alias put under the name that it is for, in place of anything that
was there. -/
def withoutNickname (nickname name : String) : Value.Fields → Value.Fields
  | [] => []
  | (key, v) :: rest =>
    if key = name then withoutNickname nickname name rest
    else (if key = nickname then name else key, v) :: withoutNickname nickname name rest

/-- A field of an object is named otherwise than by its alias. -/
inductive Renaming (kind : ObjectKind) : Value.Fields → Value.Fields → Prop where
  | mk {fields : Value.Fields} {nickname name : String} (hnames : [nickname, name] ∈ kind.fields)
      (hnickname : nickname ∈ Entries.keys fields) :
      Renaming kind fields (withoutNickname nickname name fields)

/-- One object in a value is changed: the value itself, an object in one of its lists, or the configuration
of a step, which is of the kind that the type of the step says. -/
inductive Rewritten (change : ObjectKind → Value.Fields → Value.Fields → Prop) :
    ObjectKind → Value → Value → Prop where
  | here {kind : ObjectKind} {fields others : Value.Fields} (h : change kind fields others) :
      Rewritten change kind (.object fields) (.object others)
  | item {kind inner : ObjectKind} {name : String} {front back : Value.Fields}
      {before after : List Value} {v w : Value} (hname : (name, inner) ∈ kind.lists)
      (h : Rewritten change inner v w) :
      Rewritten change kind (.object (front ++ (name, .list (before ++ v :: after)) :: back))
        (.object (front ++ (name, .list (before ++ w :: after)) :: back))
  | config {front back : Value.Fields} {v w : Value}
      (h : ∀ type : StepType,
        Entries.get? (front ++ ("config", v) :: back) "type" = some (.string type.name) →
          Rewritten change (.config type) v w) :
      Rewritten change .step (.object (front ++ ("config", v) :: back))
        (.object (front ++ ("config", w) :: back))

/-! ### What is found under names -/

theorem findNamed_congr {fields others : Value.Fields} {names : List String}
    (h : ∀ name ∈ names, Entries.get? fields name = Entries.get? others name) :
    findNamed fields names = findNamed others names := by
  induction names with
  | nil => rfl
  | cons name rest ih =>
    rw [List.forall_mem_cons] at h
    simp only [findNamed, h.1, ih h.2]

theorem get?_append_cons_of_ne (front back : Value.Fields) {key name : String} (v : Value)
    (h : key ≠ name) :
    Entries.get? (front ++ (key, v) :: back) name = Entries.get? (front ++ back) name := by
  simp [Entries.get?_append, Entries.get?, h]

/-- A name belongs to one field only. -/
theorem ObjectKind.names_eq_or_disjoint {kind : ObjectKind} {nickname name : String}
    {names : List String} (hnames : [nickname, name] ∈ kind.fields) (hothers : names ∈ kind.fields) :
    nickname ≠ name ∧ (names = [nickname, name] ∨ nickname ∉ names ∧ name ∉ names) := by
  have hall : ∀ others ∈ kind.fields, ∀ names ∈ kind.fields, ∀ nickname name,
      others = [nickname, name] →
        nickname ≠ name ∧ (names = [nickname, name] ∨ nickname ∉ names ∧ name ∉ names) := by
    cases kind with
    | config type => cases type <;> simp [fields]
    | _ => simp [fields]
  exact hall _ hnames _ hothers _ _ rfl

/-- What nobody reads changes nothing that is found. -/
theorem Noise.findNamed_eq {kind : ObjectKind} {fields others : Value.Fields}
    (h : Noise kind fields others) {names : List String} (hnames : names ∈ kind.fields) :
    findNamed fields names = findNamed others names := by
  cases h with
  | unknown hkey =>
    refine findNamed_congr fun name hname => (get?_append_cons_of_ne _ _ _ ?_).symm
    rintro rfl
    exact hkey names hnames hname
  | permuted hkeys hperm =>
    exact findNamed_congr fun name _ => (Entries.get?_of_perm hperm hkeys name).symm
  | @overruled front back nickname name v hfield hnickname =>
    obtain ⟨hne, rfl | ⟨-, hother⟩⟩ := ObjectKind.names_eq_or_disjoint hfield hnames
    · have hsame := get?_append_cons_of_ne front back v hne.symm
      rw [← Entries.get?_isSome_iff, Option.isSome_iff_exists] at hnickname
      obtain ⟨u, hu⟩ := hnickname
      simp [findNamed, hsame, hu]
    · refine findNamed_congr fun found hfound => (get?_append_cons_of_ne _ _ _ ?_).symm
      rintro rfl
      exact hother hfound

theorem get?_withoutNickname {nickname name : String} (hne : nickname ≠ name)
    (fields : Value.Fields) (key : String) :
    Entries.get? (withoutNickname nickname name fields) key
      = if key = name then Entries.get? fields nickname
        else if key = nickname then none
        else Entries.get? fields key := by
  induction fields with
  | nil => simp [withoutNickname]
  | cons entry rest ih =>
    -- The entry is dropped, renamed or kept, and each is asked for by one of the two names or another.
    by_cases hname : entry.1 = name
    · rw [withoutNickname, if_pos hname, ih]
      grind [Entries.get?]
    · rw [withoutNickname, if_neg hname]
      grind [Entries.get?]

/-- The values of the fields are found again without the alias, under whichever name. -/
theorem Renaming.value_findNamed_eq {kind : ObjectKind} {fields others : Value.Fields}
    (h : Renaming kind fields others) {names : List String} (hnames : names ∈ kind.fields) :
    (findNamed fields names).map (·.2) = (findNamed others names).map (·.2) := by
  obtain @⟨nickname, name, hfield, hnickname⟩ := h
  obtain ⟨hne, rfl | ⟨hfirst, hsecond⟩⟩ := ObjectKind.names_eq_or_disjoint hfield hnames
  · rw [← Entries.get?_isSome_iff, Option.isSome_iff_exists] at hnickname
    obtain ⟨v, hv⟩ := hnickname
    simp [findNamed, get?_withoutNickname hne, hne, hv]
  · rw [findNamed_congr fun found hfound => ?_]
    rw [get?_withoutNickname hne, if_neg, if_neg]
    · rintro rfl
      exact hfirst hfound
    · rintro rfl
      exact hsecond hfound

theorem StepType.name_eq_of_ofName? {name : String} {type : StepType}
    (h : ofName? name = some type) : name = type.name := by
  have hname := List.find?_some h
  exact (beq_iff_eq.mp hname).symm

/-! ### Objects that are read alike -/

section Alike

variable {R : ∀ α : Type, Decoded α → Decoded α → Prop}

/-- What is found in two objects under the names of a field: nothing, or one value, under names that make
no difference. -/
inductive FoundAlike (R : ∀ α : Type, Decoded α → Decoded α → Prop) :
    Option (String × Value) → Option (String × Value) → Prop where
  | missing : FoundAlike R none none
  | found {name other : String} {v : Value}
      (h : ∀ (α : Type) (decode : Decoder α), R α ((decode v).under name) ((decode v).under other)) :
      FoundAlike R (some (name, v)) (some (other, v))

theorem FoundAlike.of_eq (hR : Congruence R) {found others : Option (String × Value)}
    (h : found = others) : FoundAlike R found others := by
  subst h
  cases found with
  | none => exact .missing
  | some entry => exact .found fun _ _ => hR.refl _

theorem FoundAlike.of_value_eq {found others : Option (String × Value)}
    (h : found.map (·.2) = others.map (·.2)) :
    FoundAlike (fun _ x y => x.value? = y.value?) found others := by
  cases found with
  | none =>
    obtain rfl : others = none := by simpa using h.symm
    exact .missing
  | some entry =>
    obtain ⟨other, rfl, hvalue⟩ : ∃ other, others = some other ∧ other.2 = entry.2 := by
      simpa using h.symm
    obtain ⟨name, v⟩ := entry
    obtain ⟨otherName, w⟩ := other
    obtain rfl : w = v := hvalue
    refine .found fun _ decode => ?_
    cases decode w <;> rfl

variable (R) in
/-- A field that must be there is read alike from two objects. -/
def SameRequired {α : Type} (fields others : Value.Fields) (names : List String)
    (decode : Decoder α) : Prop :=
  R α (required fields names decode) (required others names decode)

variable (R) in
def SameOptional {α : Type} (fields others : Value.Fields) (names : List String) (default : α)
    (decode : Decoder α) : Prop :=
  R α (Schema.optional fields names default decode) (Schema.optional others names default decode)

variable {fields others : Value.Fields} {names : List String} {α : Type}

theorem FoundAlike.required (hR : Congruence R)
    (h : FoundAlike R (findNamed fields names) (findNamed others names)) (decode : Decoder α) :
    SameRequired R fields others names decode := by
  unfold SameRequired Schema.required
  generalize findNamed fields names = found at h
  generalize findNamed others names = found' at h
  cases h with
  | missing => exact hR.refl _
  | found hread => exact hread α decode

theorem FoundAlike.optional (hR : Congruence R)
    (h : FoundAlike R (findNamed fields names) (findNamed others names)) (default : α)
    (decode : Decoder α) : SameOptional R fields others names default decode := by
  unfold SameOptional Schema.optional
  generalize findNamed fields names = found at h
  generalize findNamed others names = found' at h
  cases h with
  | missing => exact hR.refl _
  | found hread => exact hread α decode

theorem FoundAlike.get?_eq {name : String}
    (h : FoundAlike R (findNamed fields [name]) (findNamed others [name])) :
    Entries.get? fields name = Entries.get? others name := by
  unfold findNamed findNamed at h
  cases hfound : Entries.get? fields name <;> cases hother : Entries.get? others name <;>
    simp only [hfound, hother] at h <;> cases h <;> rfl

/-! ### One object of each kind -/

variable (hR : Congruence R)

include hR

theorem Definition.decodeFields_congr
    (hid : SameRequired R fields others ["id"] nonEmptyText)
    (hname : SameOptional R fields others ["name"] none (nullable text))
    (hsteps : SameOptional R fields others ["steps"] [] (list Step.decode)) :
    R Definition (decodeFields (.object fields)) (decodeFields (.object others)) :=
  hR.part (hR.part (hR.part (hR.refl _) hid) hname) hsteps

theorem Step.decodeAs_congr {type : StepType}
    (hid : SameRequired R fields others ["id"] nonEmptyText)
    (hname : SameOptional R fields others ["name"] none (nullable text))
    (hdependencies : SameOptional R fields others ["dependencies"] [] (list text))
    (htimeout : SameOptional R fields others ["timeout"] none (nullable positiveNumber))
    (hconfig : SameRequired R fields others ["config"] (StepConfig.decode type)) :
    R Step (decodeAs type fields) (decodeAs type others) :=
  hR.part (hR.part (hR.part (hR.part (hR.part (hR.refl _) hid) hname) hdependencies) htimeout) hconfig

/-- Of a step whose type is unknown nothing else is read. -/
theorem Step.decode_congr (htype : Entries.get? fields "type" = Entries.get? others "type")
    (hfields : ∀ type : StepType, Entries.get? fields "type" = some (.string type.name) →
      R Step (decodeAs type fields) (decodeAs type others)) :
    R Step (decode (.object fields)) (decode (.object others)) := by
  simp only [decode, ← htype]
  split
  · exact hR.refl _
  · next tag htag =>
    split
    · next type htyped =>
      split at htyped
      · have hname := StepType.name_eq_of_ofName? htyped
        exact hR.under (hfields type (by rw [htag, hname])) _
      · cases htyped
    · exact hR.refl _

theorem TransformationConfig.decode_congr
    (htransformation : SameRequired R fields others ["transformation"] text)
    (hconditions : SameOptional R fields others ["conditions"] [] (list FieldMatch.decode))
    (hmappings : SameOptional R fields others ["mappings"] [] (list FieldMapping.decode))
    (hgroupBy : SameOptional R fields others ["groupBy", "group_by"] none (nullable text))
    (hsource : SameOptional R fields others ["source"] none (nullable text))
    (hreplaceData : SameOptional R fields others ["replaceData", "replace_data"] false boolean) :
    R TransformationConfig (decode (.object fields)) (decode (.object others)) :=
  hR.part (hR.part (hR.part (hR.part (hR.part (hR.part (hR.refl _) htransformation) hconditions)
    hmappings) hgroupBy) hsource) hreplaceData

theorem ConditionConfig.decode_congr
    (hconditions : SameOptional R fields others ["conditions"] [] (list Clause.decode))
    (hoperator : SameOptional R fields others ["operator"] "AND" text) :
    R ConditionConfig (decode (.object fields)) (decode (.object others)) :=
  hR.part (hR.part (hR.refl _) hconditions) hoperator

theorem ObjectKind.decode_congr {kind : ObjectKind}
    (h : ∀ names ∈ kind.fields, FoundAlike R (findNamed fields names) (findNamed others names)) :
    R kind.Content (kind.decode (.object fields)) (kind.decode (.object others)) := by
  cases kind with
  | definition =>
    simp only [ObjectKind.fields, List.forall_mem_cons] at h
    obtain ⟨hid, hname, hsteps, -⟩ := h
    exact Definition.decodeFields_congr hR (hid.required hR _) (hname.optional hR _ _)
      (hsteps.optional hR _ _)
  | step =>
    simp only [ObjectKind.fields, List.forall_mem_cons] at h
    obtain ⟨hid, hname, hdependencies, htimeout, htype, hconfig, -⟩ := h
    exact Step.decode_congr hR htype.get?_eq fun type _ => Step.decodeAs_congr hR
      (hid.required hR _) (hname.optional hR _ _) (hdependencies.optional hR _ _)
      (htimeout.optional hR _ _) (hconfig.required hR _)
  | config type =>
    cases type <;> simp only [ObjectKind.fields, List.forall_mem_cons] at h
    case aiProcessing =>
      obtain ⟨hprompt, huseCase, hprovider, -⟩ := h
      exact hR.map (hR.part (hR.part (hR.part (hR.refl _) (hprompt.required hR _))
        (huseCase.optional hR _ _)) (hprovider.optional hR _ _)) _
    case dataTransformation =>
      obtain ⟨htransformation, hconditions, hmappings, hgroupBy, hsource, hreplaceData, -⟩ := h
      exact hR.map (TransformationConfig.decode_congr hR (htransformation.required hR _)
        (hconditions.optional hR _ _) (hmappings.optional hR _ _) (hgroupBy.optional hR _ _)
        (hsource.optional hR _ _) (hreplaceData.optional hR _ _)) _
    case notification =>
      obtain ⟨hchannel, htemplate, hrecipients, -⟩ := h
      exact hR.map (hR.part (hR.part (hR.part (hR.refl _) (hchannel.required hR _))
        (htemplate.required hR _)) (hrecipients.optional hR _ _)) _
    case apiCall =>
      obtain ⟨hurl, hmethod, hheaders, hbodyTemplate, -⟩ := h
      exact hR.map (hR.part (hR.part (hR.part (hR.part (hR.refl _) (hurl.required hR _))
        (hmethod.optional hR _ _)) (hheaders.optional hR _ _)) (hbodyTemplate.optional hR _ _)) _
    case condition =>
      obtain ⟨hconditions, hoperator, -⟩ := h
      exact hR.map (ConditionConfig.decode_congr hR (hconditions.optional hR _ _)
        (hoperator.optional hR _ _)) _
  | fieldMatch =>
    simp only [ObjectKind.fields, List.forall_mem_cons] at h
    obtain ⟨hfield, hvalue, -⟩ := h
    exact hR.part (hR.part (hR.refl _) (hfield.required hR _)) (hvalue.optional hR _ _)
  | fieldMapping =>
    simp only [ObjectKind.fields, List.forall_mem_cons] at h
    obtain ⟨hsource, htarget, -⟩ := h
    exact hR.part (hR.part (hR.refl _) (hsource.required hR _)) (htarget.required hR _)
  | clause =>
    simp only [ObjectKind.fields, List.forall_mem_cons] at h
    obtain ⟨hfield, hoperator, hvalue, -⟩ := h
    exact hR.part (hR.part (hR.part (hR.refl _) (hfield.required hR _)) (hoperator.required hR _))
      (hvalue.optional hR _ _)

end Alike

/-! ### A change somewhere in a value -/

section Rewritten

variable {R : ∀ α : Type, Decoded α → Decoded α → Prop} {front back : Value.Fields} {key : String}
  {v w : Value}

theorem findNamed_replaced {names : List String} (h : key ∉ names) :
    findNamed (front ++ (key, v) :: back) names = findNamed (front ++ (key, w) :: back) names := by
  refine findNamed_congr fun name hname => ?_
  have hne : key ≠ name := by
    rintro rfl
    exact h hname
  rw [get?_append_cons_of_ne front back v hne, get?_append_cons_of_ne front back w hne]

variable (hR : Congruence R) {names : List String} {α : Type}

include hR

theorem sameRequired_replaced (h : key ∉ names) (decode : Decoder α) :
    SameRequired R (front ++ (key, v) :: back) (front ++ (key, w) :: back) names decode :=
  (FoundAlike.of_eq hR (findNamed_replaced h)).required hR decode

theorem sameOptional_replaced (h : key ∉ names) (default : α) (decode : Decoder α) :
    SameOptional R (front ++ (key, v) :: back) (front ++ (key, w) :: back) names default decode :=
  (FoundAlike.of_eq hR (findNamed_replaced h)).optional hR default decode

variable {change : ObjectKind → Value.Fields → Value.Fields → Prop}

/-- What is not noticed in an object by itself is not noticed where the object is a part. -/
theorem Rewritten.decode_congr
    (hhere : ∀ kind fields others, change kind fields others →
      R kind.Content (kind.decode (.object fields)) (kind.decode (.object others)))
    {kind : ObjectKind} {v w : Value} (h : Rewritten change kind v w) :
    R kind.Content (kind.decode v) (kind.decode w) := by
  -- On the place of the change: whatever else the object has is found as before, and the one field that
  -- leads to the change is read alike by induction.
  induction h with
  | here h => exact hhere _ _ _ h
  | @item kind inner name front back before after v w hname _ ih =>
    have hlist := hR.list_replaced ih before after
    cases kind with
    | definition =>
      obtain ⟨rfl, rfl⟩ : name = "steps" ∧ inner = .step := by
        simpa [ObjectKind.lists] using hname
      exact Definition.decodeFields_congr hR (sameRequired_replaced hR (by decide) _)
        (sameOptional_replaced hR (by decide) _ _)
        (hR.optional_replaced front back hlist [])
    | config type =>
      cases type with
      | dataTransformation =>
        obtain ⟨rfl, rfl⟩ | ⟨rfl, rfl⟩ : name = "conditions" ∧ inner = .fieldMatch ∨
            name = "mappings" ∧ inner = .fieldMapping := by
          simpa [ObjectKind.lists] using hname
        · exact hR.map (TransformationConfig.decode_congr hR
            (sameRequired_replaced hR (by decide) _)
            (hR.optional_replaced front back hlist [])
            (sameOptional_replaced hR (by decide) _ _)
            (sameOptional_replaced hR (by decide) _ _)
            (sameOptional_replaced hR (by decide) _ _)
            (sameOptional_replaced hR (by decide) _ _)) _
        · exact hR.map (TransformationConfig.decode_congr hR
            (sameRequired_replaced hR (by decide) _)
            (sameOptional_replaced hR (by decide) _ _)
            (hR.optional_replaced front back hlist [])
            (sameOptional_replaced hR (by decide) _ _)
            (sameOptional_replaced hR (by decide) _ _)
            (sameOptional_replaced hR (by decide) _ _)) _
      | condition =>
        obtain ⟨rfl, rfl⟩ : name = "conditions" ∧ inner = .clause := by
          simpa [ObjectKind.lists] using hname
        exact hR.map (ConditionConfig.decode_congr hR (hR.optional_replaced front back hlist [])
          (sameOptional_replaced hR (by decide) _ _)) _
      | aiProcessing | notification | apiCall => cases hname
    | step | fieldMatch | fieldMapping | clause => cases hname
  | @config front back v w _ ih =>
    have htype : Entries.get? (front ++ ("config", v) :: back) "type"
        = Entries.get? (front ++ ("config", w) :: back) "type" := by
      rw [get?_append_cons_of_ne front back v (by decide),
        get?_append_cons_of_ne front back w (by decide)]
    refine Step.decode_congr hR htype fun type hnamed => ?_
    exact Step.decodeAs_congr hR (sameRequired_replaced hR (by decide) _)
      (sameOptional_replaced hR (by decide) _ _)
      (sameOptional_replaced hR (by decide) _ _)
      (sameOptional_replaced hR (by decide) _ _)
      (hR.required_replaced front back (ih type hnamed))

end Rewritten

theorem decodeFields_eq_of_noise {v w : Value} (h : Rewritten Noise .definition v w) :
    Definition.decodeFields v = Definition.decodeFields w :=
  h.decode_congr congruence_eq fun _ _ _ hnoise => ObjectKind.decode_congr congruence_eq
    fun _ hnames => .of_eq congruence_eq (hnoise.findNamed_eq hnames)

theorem value_decodeFields_eq_of_renaming {v w : Value}
    (h : Rewritten Renaming .definition v w) :
    (Definition.decodeFields v).value? = (Definition.decodeFields w).value? :=
  h.decode_congr congruence_value fun _ _ _ hrenaming => ObjectKind.decode_congr congruence_value
    fun _ hnames => .of_value_eq (hrenaming.value_findNamed_eq hnames)

namespace Definition

theorem checkIds_eq_valid_iff {definition checked : Definition} :
    definition.checkIds = .valid checked ↔
      definition = checked ∧ checked.checkIds = .valid checked := by
  constructor
  · intro h
    have hsame : definition = checked := by
      unfold checkIds at h
      split at h
      · cases h
      · exact Decoded.valid.inj h
    exact ⟨hsame, hsame ▸ h⟩
  · rintro ⟨rfl, h⟩
    exact h

theorem parse_eq_ok_iff {v : Value} {definition : Definition} :
    parse v = .ok definition ↔
      (decodeFields v).value? = some definition ∧ definition.checkIds = .valid definition := by
  have hdecode : parse v = .ok definition ↔ decode v = .valid definition := by
    unfold parse
    cases decode v <;> simp
  rw [hdecode, decode]
  cases decodeFields v with
  | valid read => simpa [Decoded.andThen, Decoded.value?] using checkIds_eq_valid_iff
  | invalid issues => simp [Decoded.andThen, Decoded.value?]

/-- **How a definition is spelled makes no difference.** Any number of changes to what nobody reads, in
any of its objects, leave the outcome of parsing as it is, be it a definition or the words of a failure. A
definition that is accepted means the same after any number of fields have been named otherwise than by
their aliases. -/
theorem parse_ignores_spelling :
    (∀ v w, Relation.EqvGen (Rewritten Noise .definition) v w → parse v = parse w) ∧
      ∀ v w definition, Relation.ReflTransGen (Rewritten Renaming .definition) v w →
        parse v = .ok definition → parse w = .ok definition := by
  constructor
  · intro v w h
    induction h with
    | rel v w hnoise => rw [parse, parse, decode, decode, decodeFields_eq_of_noise hnoise]
    | refl v => rfl
    | symm v w _ ih => exact ih.symm
    | trans u v w _ _ hfirst hsecond => exact hfirst.trans hsecond
  · intro v w definition h hparse
    induction h with
    | refl => exact hparse
    | tail _ hrenaming ih =>
      rw [parse_eq_ok_iff] at ih ⊢
      rwa [← value_decodeFields_eq_of_renaming hrenaming]

end Definition

namespace Sample

/-- A definition of one transformation, with some fields of its own and of the configuration. -/
def transforming (more config : Value.Fields) : Value :=
  .object ([("id", .string "transforming"), ("steps", .list [.object
    [("id", .string "pass"), ("type", .string "data_transformation"), ("config", .object config)]])]
      ++ more)

/-- The definition that writes its data back, as it is usually written. -/
def aliased : Value :=
  transforming [] [("transformation", .string "none"), ("replaceData", .bool true)]

theorem aliased_described : Relation.EqvGen (Rewritten Noise .definition) aliased
    (transforming [("description", .string "Nobody reads this.")]
      [("transformation", .string "none"), ("replaceData", .bool true)]) := by
  refine .rel _ _ (.here ?_)
  have hnoise (fields : Value.Fields) :
      Noise .definition (fields ++ []) (fields ++ [("description", .string "Nobody reads this.")]) :=
    .unknown (by simp [ObjectKind.fields])
  exact hnoise _

theorem aliased_renamed : Relation.ReflTransGen (Rewritten Renaming .definition) aliased
    (transforming [] [("transformation", .string "none"), ("replace_data", .bool true)]) := by
  have hrenaming (type : StepType) (htype : "data_transformation" = type.name) :
      Rewritten Renaming (.config type)
        (.object [("transformation", .string "none"), ("replaceData", .bool true)])
        (.object [("transformation", .string "none"), ("replace_data", .bool true)]) := by
    obtain rfl : type = .dataTransformation :=
      Option.some.inj ((StepType.ofName?_name type).symm.trans (congrArg StepType.ofName? htype.symm))
    have hnames : ["replaceData", "replace_data"]
        ∈ ObjectKind.fields (.config .dataTransformation) := by simp [ObjectKind.fields]
    exact .here (.mk hnames (by decide))
  have hstep := @Rewritten.config Renaming
    [("id", .string "pass"), ("type", .string "data_transformation")] [] _ _
    fun type htype => hrenaming type (Value.string.inj (Option.some.inj htype))
  exact .single (@Rewritten.item _ .definition .step "steps" [("id", .string "transforming")]
    [] [] [] _ _ (by simp [ObjectKind.lists]) hstep)

theorem aliased_spellings :
    Definition.parse aliased
        = Definition.parse (transforming [("description", .string "Nobody reads this.")]
            [("transformation", .string "none"), ("replaceData", .bool true)]) ∧
      ∃ definition, Definition.parse aliased = .ok definition ∧
        Definition.parse (transforming []
          [("transformation", .string "none"), ("replace_data", .bool true)]) = .ok definition := by
  obtain ⟨hnoise, hrenaming⟩ := Definition.parse_ignores_spelling
  have haccepted : ∃ definition, Definition.parse aliased = .ok definition := ⟨_, rfl⟩
  obtain ⟨definition, haccepted⟩ := haccepted
  exact ⟨hnoise _ _ aliased_described, definition, haccepted,
    hrenaming _ _ _ aliased_renamed haccepted⟩

end Sample

end Runbook
