/-!
Values filed under names, in the order in which the names first came. Filing under a name that is
there already replaces the value and keeps the place.
-/

namespace Runbook

abbrev Entries (α : Type) := List (String × α)

namespace Entries

variable {α : Type}

def get? : Entries α → String → Option α
  | [], _ => none
  | (k, a) :: rest, key => if k = key then some a else get? rest key

def put : Entries α → String → α → Entries α
  | [], key, a => [(key, a)]
  | (k, b) :: rest, key, a =>
    if k = key then (k, a) :: rest else (k, b) :: put rest key a

def keys (entries : Entries α) : List String :=
  entries.map (·.1)

def has (entries : Entries α) (key : String) : Bool :=
  (get? entries key).isSome

def mapValues {β : Type} (f : α → β) (entries : Entries α) : Entries β :=
  entries.map fun entry => (entry.1, f entry.2)

@[simp] theorem get?_nil (key : String) : get? ([] : Entries α) key = none := rfl

theorem get?_put_self (entries : Entries α) (key : String) (a : α) :
    get? (put entries key a) key = some a := by
  induction entries with
  | nil => simp [put, get?]
  | cons entry rest ih =>
    by_cases h : entry.1 = key <;> simp [put, get?, h, ih]

theorem get?_put_of_ne (entries : Entries α) {key other : String} (a : α) (h : key ≠ other) :
    get? (put entries key a) other = get? entries other := by
  induction entries with
  | nil => simp [put, get?, h]
  | cons entry rest ih =>
    by_cases hk : entry.1 = key
    · subst hk
      simp [put, get?, h]
    · simp [put, get?, hk, ih]

theorem put_put (entries : Entries α) (key : String) (a b : α) :
    put (put entries key a) key b = put entries key b := by
  induction entries with
  | nil => simp [put]
  | cons entry rest ih =>
    by_cases h : entry.1 = key
    · simp [put, h]
    · simp [put, h, ih]

theorem keys_put (entries : Entries α) (key : String) (a : α) :
    keys (put entries key a) = if key ∈ keys entries then keys entries else keys entries ++ [key] := by
  induction entries with
  | nil => simp [put, keys]
  | cons entry rest ih =>
    by_cases h : entry.1 = key
    · simp [put, keys, h]
    · have h' : key ≠ entry.1 := fun e => h e.symm
      simp only [keys] at ih
      simp only [put, keys, h, if_false, List.map_cons, ih, List.mem_cons, h', false_or]
      split <;> simp_all

theorem nodup_keys_put {entries : Entries α} (h : (keys entries).Nodup) (key : String) (a : α) :
    (keys (put entries key a)).Nodup := by
  rw [keys_put]
  split
  · exact h
  · next hfresh =>
    have hback : ∀ name ∈ keys entries, name ≠ key := fun name hname heq => hfresh (heq ▸ hname)
    exact List.nodup_append.mpr ⟨h, by simp, by simpa using hback⟩

theorem keys_concat (entries : Entries α) (key : String) (a : α) :
    keys (entries ++ [(key, a)]) = keys entries ++ [key] :=
  List.map_append

theorem eraseDups_concat {ι : Type} [BEq ι] [LawfulBEq ι] (names : List ι) (name : ι) :
    (names ++ [name]).eraseDups
      = if name ∈ names then names.eraseDups else names.eraseDups ++ [name] := by
  rw [List.eraseDups_append]
  by_cases hname : name ∈ names <;> simp [List.removeAll, List.eraseDups_cons, hname]

/-- Names keep the order in which they first came. -/
theorem keys_put_eq_eraseDups {entries : Entries α} {names : List String}
    (h : keys entries = names.eraseDups) (key : String) (a : α) :
    keys (put entries key a) = (names ++ [key]).eraseDups := by
  rw [keys_put, h, eraseDups_concat]
  simp only [List.mem_eraseDups]

theorem mem_of_mem_put {entries : Entries α} {key : String} {a : α} {entry : String × α}
    (h : entry ∈ put entries key a) : entry = (key, a) ∨ entry ∈ entries := by
  induction entries with
  | nil => exact Or.inl (by simpa [put] using h)
  | cons first rest ih =>
    by_cases hkey : first.1 = key
    · rw [put, if_pos hkey, List.mem_cons] at h
      rcases h with rfl | hrest
      · exact Or.inl (by rw [hkey])
      · exact Or.inr (List.mem_cons_of_mem _ hrest)
    · rw [put, if_neg hkey, List.mem_cons] at h
      rcases h with rfl | hrest
      · exact Or.inr List.mem_cons_self
      · exact (ih hrest).imp_right (List.mem_cons_of_mem _)

/-- Filing a value changes nothing exactly where it is filed already. -/
theorem put_eq_self_iff (entries : Entries α) (key : String) (a : α) :
    put entries key a = entries ↔ get? entries key = some a := by
  constructor
  · intro h
    rw [← h, get?_put_self]
  · intro h
    induction entries with
    | nil => cases h
    | cons entry rest ih =>
      by_cases hkey : entry.1 = key
      · simp only [get?, hkey, if_true, Option.some.injEq] at h
        rw [put, if_pos hkey, ← h]
      · simp only [get?, hkey, if_false] at h
        rw [put, if_neg hkey, ih h]

theorem put_of_fresh {entries : Entries α} {key : String} (hfresh : key ∉ keys entries) (a : α) :
    put entries key a = entries ++ [(key, a)] := by
  induction entries with
  | nil => rfl
  | cons entry rest ih =>
    obtain ⟨hne, hrest⟩ : key ≠ entry.1 ∧ key ∉ keys rest := by simpa [keys] using hfresh
    rw [put, if_neg hne.symm, ih hrest, List.cons_append]

theorem get?_isSome_iff (entries : Entries α) (key : String) :
    (get? entries key).isSome = true ↔ key ∈ keys entries := by
  induction entries with
  | nil => simp [keys]
  | cons entry rest ih =>
    by_cases h : entry.1 = key
    · simp [get?, keys, h]
    · have h' : key ≠ entry.1 := fun e => h e.symm
      simp only [keys] at ih
      simp [get?, keys, h, h', ih]

theorem has_iff (entries : Entries α) (key : String) :
    has entries key = true ↔ key ∈ keys entries :=
  get?_isSome_iff entries key

theorem get?_of_mem {entries : Entries α} (hkeys : (keys entries).Nodup) {key : String} {a : α}
    (hmem : (key, a) ∈ entries) : get? entries key = some a := by
  induction entries with
  | nil => simp at hmem
  | cons entry rest ih =>
    obtain ⟨hfresh, hrest⟩ := List.nodup_cons.mp hkeys
    rcases List.mem_cons.mp hmem with heq | hmem
    · simp [← heq, get?]
    · have hne : entry.1 ≠ key := by
        intro heq
        exact hfresh (List.mem_map.mpr ⟨(key, a), hmem, heq.symm⟩)
      rw [get?, if_neg hne]
      exact ih hrest hmem

theorem mem_of_get? {entries : Entries α} {key : String} {a : α} (h : get? entries key = some a) :
    (key, a) ∈ entries := by
  induction entries with
  | nil => cases h
  | cons entry rest ih =>
    by_cases hkey : entry.1 = key
    · simp only [get?, hkey, if_true, Option.some.injEq] at h
      simp [← hkey, ← h]
    · simp only [get?, hkey, if_false] at h
      exact List.mem_cons_of_mem _ (ih h)

theorem exists_get?_of_mem_keys {entries : Entries α} {key : String} (h : key ∈ keys entries) :
    ∃ a, get? entries key = some a :=
  Option.isSome_iff_exists.mp ((get?_isSome_iff entries key).mpr h)

theorem mem_keys_of_get? {entries : Entries α} {key : String} {a : α}
    (h : get? entries key = some a) : key ∈ keys entries :=
  List.mem_map.mpr ⟨(key, a), mem_of_get? h, rfl⟩

theorem get?_append (front back : Entries α) (key : String) :
    get? (front ++ back) key = (get? front key).or (get? back key) := by
  induction front with
  | nil => rfl
  | cons entry rest ih =>
    by_cases h : entry.1 = key
    · simp [get?, h]
    · simpa [get?, h] using ih

/-- Where no name comes twice, the order of the entries does not matter. -/
theorem get?_of_perm {entries others : Entries α} (hperm : entries.Perm others)
    (hkeys : (keys entries).Nodup) (key : String) : get? others key = get? entries key := by
  have hothers : (keys others).Nodup := by
    unfold keys at hkeys ⊢
    exact (hperm.map _).nodup_iff.mp hkeys
  cases hget : get? entries key with
  | some a => exact get?_of_mem hothers (hperm.mem_iff.mp (mem_of_get? hget))
  | none =>
    cases hother : get? others key with
    | none => rfl
    | some b =>
      have hmem : (key, b) ∈ entries := hperm.mem_iff.mpr (mem_of_get? hother)
      rw [get?_of_mem hkeys hmem] at hget
      cases hget

theorem get?_mapValues {β : Type} (f : α → β) (entries : Entries α) (key : String) :
    get? (mapValues f entries) key = (get? entries key).map f := by
  induction entries with
  | nil => rfl
  | cons entry rest ih =>
    by_cases h : entry.1 = key
    · simp [mapValues, get?, h]
    · simpa [mapValues, get?, h] using ih

theorem keys_mapValues {β : Type} (f : α → β) (entries : Entries α) :
    keys (mapValues f entries) = keys entries := by
  simp [keys, mapValues]

theorem has_mapValues {β : Type} (f : α → β) (entries : Entries α) (key : String) :
    has (mapValues f entries) key = has entries key := by
  rw [has, get?_mapValues, Option.isSome_map, has]

theorem mapValues_put {β : Type} (f : α → β) (entries : Entries α) (key : String) (a : α) :
    mapValues f (put entries key a) = put (mapValues f entries) key (f a) := by
  induction entries with
  | nil => rfl
  | cons entry rest ih =>
    by_cases h : entry.1 = key
    · simp [put, mapValues, h]
    · simpa [put, mapValues, h] using ih

/-- Filing a value in another's place changes how many values have a property by these two alone. -/
theorem countP_put (p : α → Bool) {entries : Entries α} {key : String} {b : α}
    (hget : get? entries key = some b) (a : α) :
    (put entries key a).countP (fun entry => p entry.2) + (if p b then 1 else 0)
      = entries.countP (fun entry => p entry.2) + (if p a then 1 else 0) := by
  induction entries with
  | nil => simp at hget
  | cons entry rest ih =>
    by_cases h : entry.1 = key
    · simp only [get?, h, if_true, Option.some.injEq] at hget
      simp only [put, h, if_true, List.countP_cons, hget]
      omega
    · simp only [get?, h, if_false] at hget
      have hrest := ih hget
      simp only [put, h, if_false, List.countP_cons]
      omega

end Entries

end Runbook
