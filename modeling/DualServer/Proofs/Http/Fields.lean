import DualServer.Http.Message

/-! What the values of a name are after an edit of a list of fields, and which fields it leaves
alone. -/
namespace DualServer.Http.Fields

section
variable (fields fields' : Fields) {name other : String} (value : String)

theorem all_append (name : String) :
    Fields.all (fields ++ fields') name = fields.all name ++ Fields.all fields' name := by
  simp [all]

theorem all_singleton (name : String) (field : String × String) :
    Fields.all [field] name = if field.1 = name then [field.2] else [] := by
  by_cases h : field.1 = name <;> simp [all, h]

@[simp] theorem all_add_self : (fields.add name value).all name = fields.all name ++ [value] := by
  rw [add, all_append, all_singleton, if_pos rfl]

theorem all_add_of_ne (h : name ≠ other) :
    (fields.add name value).all other = fields.all other := by
  rw [add, all_append, all_singleton, if_neg h, List.append_nil]

theorem all_without_self (name : String) : (fields.without name).all name = [] := by
  simp [all, without, List.filter_filter]

theorem all_without_of_ne (h : name ≠ other) :
    (fields.without name).all other = fields.all other := by
  have hkept : ∀ field ∈ fields, (field.1 == other && field.1 != name) = (field.1 == other) := by
    intro field _
    by_cases hother : field.1 = other
    · simp [hother, Ne.symm h]
    · simp [hother]
  rw [all, without, List.filter_filter, List.filter_congr hkept, all]

@[simp] theorem all_set_self : (fields.set name value).all name = [value] := by
  rw [set, all_add_self, all_without_self, List.nil_append]

theorem all_set_of_ne (h : name ≠ other) :
    (fields.set name value).all other = fields.all other := by
  rw [set, all_add_of_ne _ _ h, all_without_of_ne _ h]

theorem all_eq_nil_iff : fields.all name = [] ↔ ∀ field ∈ fields, field.1 ≠ name := by
  simp [all]

theorem has_eq_true_iff : fields.has name = true ↔ fields.all name ≠ [] := by
  simp [has, all]

theorem without_set_self (name : String) :
    (fields.set name value).without name = fields.without name := by
  simp [set, add, without, List.filter_filter]

theorem all_setIfAbsent_of_ne (h : name ≠ other) :
    (fields.setIfAbsent name value).all other = fields.all other := by
  unfold setIfAbsent
  split
  · rfl
  · exact all_add_of_ne fields value h

end

section
variable (fields : Fields) {keep : String → Bool} {name : String} (value : String)

theorem has_filter (h : keep name = true) :
    Fields.has (fields.filter (keep ·.1)) name = fields.has name := by
  have hkept : ∀ field : String × String,
      (keep field.1 && field.1 == name) = (field.1 == name) := by
    intro field
    by_cases hname : field.1 = name
    · simp [hname, h]
    · simp [hname]
  rw [has, has, List.any_filter, List.any_congr rfl hkept]

theorem filter_setIfAbsent (h : keep name = true) :
    (fields.setIfAbsent name value).filter (keep ·.1) =
      Fields.setIfAbsent (fields.filter (keep ·.1)) name value := by
  unfold setIfAbsent
  rw [has_filter fields h]
  split
  · rfl
  · simp [add, h]

theorem filter_add (h : keep name = false) :
    (fields.add name value).filter (keep ·.1) = fields.filter (keep ·.1) := by
  simp [add, h]

theorem filter_set (h : keep name = false) :
    (fields.set name value).filter (keep ·.1) = fields.filter (keep ·.1) := by
  have hkept : ∀ field ∈ fields, (keep field.1 && field.1 != name) = keep field.1 := by
    intro field _
    by_cases hname : field.1 = name
    · simp [hname, h]
    · simp [hname]
  rw [set, filter_add _ _ h, without, List.filter_filter, List.filter_congr hkept]

end

/-- Fields set one after the other replace those of their names. -/
theorem all_foldl_set (fields updates : Fields) (name : String)
    (hnodup : (updates.map (·.1)).Nodup) :
    (updates.foldl (fun fields (name, value) => fields.set name value) fields).all name =
      if updates.all name = [] then fields.all name else updates.all name := by
  induction updates generalizing fields with
  | nil => rfl
  | cons update updates ih =>
    obtain ⟨hnew, hrest⟩ := List.nodup_cons.mp hnodup
    rw [List.foldl_cons, ih _ hrest, ← List.singleton_append, all_append, all_singleton]
    by_cases h : update.1 = name
    · subst h
      have hnone : Fields.all updates update.1 = [] :=
        (all_eq_nil_iff updates).mpr fun field hfield heq =>
          hnew (List.mem_map.mpr ⟨field, hfield, heq⟩)
      simp [hnone]
    · rw [all_set_of_ne _ _ h, if_neg h, List.nil_append]

theorem filter_foldl_set (fields updates : Fields) {keep : String → Bool}
    (h : ∀ update ∈ updates, keep update.1 = false) :
    (updates.foldl (fun fields (name, value) => fields.set name value) fields).filter (keep ·.1) =
      fields.filter (keep ·.1) := by
  induction updates generalizing fields with
  | nil => rfl
  | cons update updates ih =>
    rw [List.foldl_cons, ih _ fun other hother => h other (List.mem_cons_of_mem _ hother)]
    exact filter_set fields update.2 (h update List.mem_cons_self)

end DualServer.Http.Fields
