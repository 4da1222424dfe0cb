import AutoProxy.Script.Engine

/-!
What is bound in a fresh context. The predicates are bound one after the other, and since no two of them
have the same name none of them loses its place to a later one: in a fresh context of the script
language each of them is found under its name (`holder?_of_fresh`).
-/

namespace AutoProxy.Script

/-- Every predicate is among those that are bound. -/
theorem Question.mem_all (q : Question) : q ∈ Question.all := by
  cases q <;> decide

/-- No two predicates have the same name. -/
theorem Question.name_injective : Function.Injective Question.name := by
  intro q r
  cases q <;> cases r <;> simp [Question.name]

namespace Machine

variable {name other : String} {v : Variable} {entries : List (String × Variable)} {m : Machine}

/-! ### Variables of a scope -/

theorem lookup_replaced_self (h : (entries.lookup name).isSome = true) :
    (replaced name v entries).lookup name = some v := by
  induction entries with
  | nil => cases h
  | cons entry rest ih =>
      obtain ⟨first, old⟩ := entry
      by_cases hname : first = name
      · simp [replaced, hname]
      · have hfirst : (name == first) = false := beq_eq_false_iff_ne.mpr (Ne.symm hname)
        rw [List.lookup_cons, hfirst] at h
        rw [replaced, if_neg hname, List.lookup_cons, hfirst]
        exact ih h

theorem lookup_replaced_of_ne (h : other ≠ name) :
    (replaced name v entries).lookup other = entries.lookup other := by
  induction entries with
  | nil => rfl
  | cons entry rest ih =>
      obtain ⟨first, old⟩ := entry
      by_cases hname : first = name
      · subst hname
        simp only [replaced, if_pos, List.lookup_cons, beq_eq_false_iff_ne.mpr h]
      · simp only [replaced, if_neg hname, List.lookup_cons, ih]

/-- A variable that is put in its place is found there, and the others are where they were. -/
theorem lookup_placed :
    (placed name v entries).lookup other = if other = name then some v else entries.lookup other := by
  rw [placed]
  by_cases hname : other = name
  · subst hname
    rw [if_pos rfl]
    split
    · next hknown => exact lookup_replaced_self hknown
    · simp
  · rw [if_neg hname]
    split
    · exact lookup_replaced_of_ne hname
    · rw [List.lookup_cons, beq_eq_false_iff_ne.mpr hname]

/-! ### Binding -/

/-- Nothing is declared yet but in the outermost scope, which has the entries. -/
def HasOnly (m : Machine) (entries : List (String × Variable)) : Prop :=
  m.scopes = #[⟨entries, none⟩, ⟨[], some outermost⟩]

theorem HasOnly.holder? (h : m.HasOnly entries) :
    m.holder? name top = (entries.lookup name).map fun v => (outermost, v) := by
  rw [HasOnly] at h
  cases hlookup : entries.lookup name with
  | none => simp [Machine.holder?, find?, h, top, outermost, hlookup]
  | some v => simp [Machine.holder?, find?, h, top, outermost, hlookup]

theorem HasOnly.bind (h : m.HasOnly entries) (q : Question) :
    (m.bind q).HasOnly (placed q.name { value := some (.native (.question q)) } entries) := by
  rw [HasOnly] at h ⊢
  simp [Machine.bind, place, h, outermost]

/-- Of the predicates that are bound one after the other each is found under its name. -/
theorem lookup_of_foldl (qs : List Question) (h : m.HasOnly entries) :
    ∃ all, (qs.foldl Machine.bind m).HasOnly all ∧
      (∀ q ∈ qs, all.lookup q.name = some { value := some (.native (.question q)) }) ∧
      ∀ q ∉ qs, all.lookup q.name = entries.lookup q.name := by
  induction qs generalizing m entries with
  | nil => exact ⟨entries, h, by simp, fun _ _ => rfl⟩
  | cons first rest ih =>
      obtain ⟨all, hall, hbound, hothers⟩ := ih (h.bind first)
      refine ⟨all, hall, ?_, ?_⟩
      · intro q hq
        by_cases hrest : q ∈ rest
        · exact hbound q hrest
        · obtain rfl : q = first := (List.mem_cons.mp hq).resolve_right hrest
          rw [hothers q hrest, lookup_placed, if_pos rfl]
      · intro q hq
        have hfirst : q ≠ first := List.ne_of_not_mem_cons hq
        have hname : q.name ≠ first.name := fun h => hfirst (Question.name_injective h)
        rw [hothers q (List.not_mem_of_not_mem_cons hq), lookup_placed, if_neg hname]

end Machine

/-- Binding does not fail in the script language. -/
theorem fresh_interpreter (bounds : Bounds) (lookup : Lookup) :
    (interpreter bounds lookup).fresh = .ok (Question.all.foldl Machine.bind .blank) := rfl

/-- In a fresh context of the script language each predicate is found under its name. -/
theorem holder?_of_fresh {bounds : Bounds} {lookup : Lookup} {m : Machine}
    (h : (interpreter bounds lookup).fresh = .ok m) (q : Question) :
    m.holder? q.name Machine.top =
      some (Machine.outermost, { value := some (.native (.question q)) }) := by
  rw [fresh_interpreter, Except.ok.injEq] at h
  subst h
  have hblank : Machine.blank.HasOnly languageVariables := rfl
  obtain ⟨all, hall, hbound, -⟩ := Machine.lookup_of_foldl Question.all hblank
  rw [hall.holder?, hbound q q.mem_all, Option.map_some]

end AutoProxy.Script
