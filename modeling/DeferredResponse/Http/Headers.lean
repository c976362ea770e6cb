/-!
# Header lists

The headers of a response: names in the order in which they were first set, each with its values.
`values` is the view through which a list is read.
-/

namespace DeferredResponse.Http

/-- Header names with their values, in order of first insertion. -/
structure Headers where
  fields : List (String × List String) := []
  deriving DecidableEq, Repr

namespace Headers

/-- The values of a header; none if it is not set. -/
def values (headers : Headers) (name : String) : List String :=
  (headers.fields.lookup name).getD []

def names (headers : Headers) : List String := headers.fields.map Prod.fst

/-- Gives the values of one name a new form; a name that is not set comes last. -/
def update (name : String) (change : List String → List String) :
    List (String × List String) → List (String × List String)
  | [] => [(name, change [])]
  | (other, values) :: rest =>
    if other = name then (other, change values) :: rest
    else (other, values) :: update name change rest

def insert (headers : Headers) (name value : String) : Headers :=
  { fields := update name (fun _ => [value]) headers.fields }

/-- Adds a value to those of a header. -/
def append (headers : Headers) (name value : String) : Headers :=
  { fields := update name (· ++ [value]) headers.fields }

def erase (headers : Headers) (name : String) : Headers :=
  { fields := headers.fields.filter fun field => field.1 ≠ name }

/-- The headers in ascending order of their names. -/
def sorted (headers : Headers) : List (String × List String) :=
  headers.fields.mergeSort fun a b => a.1 ≤ b.1

/-! ## Values after a change -/

theorem lookup_cons_ite (name first : String) (values : List String)
    (rest : List (String × List String)) :
    ((first, values) :: rest).lookup name =
      if name = first then some values else rest.lookup name := by
  by_cases h : name = first
  · simp [h]
  · rw [List.lookup_cons, beq_false_of_ne h, if_neg h]

theorem lookup_update (name other : String) (change : List String → List String)
    (fields : List (String × List String)) :
    (update name change fields).lookup other =
      if other = name then some (change ((fields.lookup name).getD []))
      else fields.lookup other := by
  induction fields with
  | nil => simp [update, lookup_cons_ite]
  | cons field rest ih =>
    obtain ⟨first, values⟩ := field
    by_cases hf : first = name
    · subst hf
      by_cases ho : other = first <;> simp [update, lookup_cons_ite, ho]
    · by_cases ho : other = name
      · subst ho
        simp [update, lookup_cons_ite, hf, Ne.symm hf, ih]
      · simp [update, lookup_cons_ite, hf, ho, ih]

@[simp] theorem values_insert (headers : Headers) (name value other : String) :
    (headers.insert name value).values other =
      if other = name then [value] else headers.values other := by
  simp only [values, insert, lookup_update]
  split <;> rfl

@[simp] theorem values_append (headers : Headers) (name value other : String) :
    (headers.append name value).values other =
      if other = name then headers.values name ++ [value] else headers.values other := by
  simp only [values, append, lookup_update]
  split <;> rfl

@[simp] theorem values_erase (headers : Headers) (name other : String) :
    (headers.erase name).values other = if other = name then [] else headers.values other := by
  simp only [values, erase]
  induction headers.fields with
  | nil => simp
  | cons field rest ih =>
    obtain ⟨first, values⟩ := field
    by_cases hf : first = name
    · subst hf
      by_cases ho : other = first <;> simp_all [lookup_cons_ite]
    · by_cases ho : other = name
      · subst ho
        simp_all [lookup_cons_ite, Ne.symm hf]
      · by_cases hof : other = first <;> simp_all [lookup_cons_ite]

/-! ## Names after a change -/

/-- Every name is listed once, and with a value. -/
structure WellFormed (headers : Headers) : Prop where
  nodup : headers.names.Nodup
  ne_nil : ∀ field ∈ headers.fields, field.2 ≠ []

/-- Exactly the names that have values are listed. -/
theorem WellFormed.mem_names_iff {headers : Headers} (h : headers.WellFormed) (name : String) :
    name ∈ headers.names ↔ headers.values name ≠ [] := by
  obtain ⟨fields⟩ := headers
  have hne : ∀ field ∈ fields, field.2 ≠ [] := h.ne_nil
  show name ∈ fields.map Prod.fst ↔ (fields.lookup name).getD [] ≠ []
  clear h
  induction fields with
  | nil => simp
  | cons field rest ih =>
    obtain ⟨first, values⟩ := field
    rw [List.map_cons, List.mem_cons, lookup_cons_ite]
    by_cases hname : name = first
    · rw [if_pos hname]
      exact iff_of_true (.inl hname) (hne (first, values) List.mem_cons_self)
    · rw [if_neg hname, ← ih fun field hfield => hne field (List.mem_cons_of_mem _ hfield)]
      exact or_iff_right hname

theorem map_fst_update (name : String) (change : List String → List String)
    (fields : List (String × List String)) :
    (update name change fields).map Prod.fst =
      if name ∈ fields.map Prod.fst then fields.map Prod.fst
      else fields.map Prod.fst ++ [name] := by
  induction fields with
  | nil => rfl
  | cons field rest ih =>
    obtain ⟨first, values⟩ := field
    unfold update
    by_cases hname : first = name
    · simp [hname]
    · simp only [if_neg hname, List.map_cons, List.mem_cons, Ne.symm hname, false_or, ih]
      split <;> rfl

/-- A header after an update is one of those before it, or has its values from there. -/
theorem mem_update {name : String} {change : List String → List String}
    {fields : List (String × List String)} {field : String × List String}
    (h : field ∈ update name change fields) :
    field ∈ fields ∨ ∃ values, ((name, values) ∈ fields ∨ values = []) ∧
      field = (name, change values) := by
  induction fields with
  | nil => exact .inr ⟨[], .inr rfl, List.mem_singleton.mp h⟩
  | cons head rest ih =>
    obtain ⟨first, values⟩ := head
    unfold update at h
    split at h
    · next hname =>
      rcases List.mem_cons.mp h with rfl | h
      · exact .inr ⟨values, .inl (hname ▸ List.mem_cons_self), by rw [hname]⟩
      · exact .inl (List.mem_cons_of_mem _ h)
    · rcases List.mem_cons.mp h with rfl | h
      · exact .inl List.mem_cons_self
      · rcases ih h with hold | ⟨values, hvalues, rfl⟩
        · exact .inl (List.mem_cons_of_mem _ hold)
        · exact .inr ⟨values, hvalues.imp_left (List.mem_cons_of_mem _), rfl⟩

theorem WellFormed.update {headers : Headers} (h : headers.WellFormed) (name : String)
    {change : List String → List String} (hchange : ∀ values, change values ≠ []) :
    WellFormed { fields := Headers.update name change headers.fields } where
  nodup := by
    unfold names
    rw [map_fst_update]
    split
    · exact h.nodup
    · next hname =>
      refine List.nodup_append.mpr ⟨h.nodup, by simp, ?_⟩
      rintro other hother _ hlast rfl
      rw [List.mem_singleton] at hlast
      exact hname (hlast ▸ hother)
  ne_nil := by
    intro field hfield
    rcases mem_update hfield with hold | ⟨values, -, rfl⟩
    · exact h.ne_nil field hold
    · exact hchange values

theorem WellFormed.empty : WellFormed {} := ⟨List.nodup_nil, by simp⟩

theorem WellFormed.insert {headers : Headers} (h : headers.WellFormed) (name value : String) :
    (headers.insert name value).WellFormed :=
  h.update name fun _ => List.cons_ne_nil value []

theorem WellFormed.append {headers : Headers} (h : headers.WellFormed) (name value : String) :
    (headers.append name value).WellFormed :=
  h.update name fun values => List.append_ne_nil_of_right_ne_nil values (List.cons_ne_nil value [])

theorem WellFormed.erase {headers : Headers} (h : headers.WellFormed) (name : String) :
    (headers.erase name).WellFormed where
  nodup := h.nodup.sublist (List.filter_sublist.map Prod.fst)
  ne_nil := fun field hfield => h.ne_nil field (List.mem_filter.mp hfield).1

end Headers

end DeferredResponse.Http
