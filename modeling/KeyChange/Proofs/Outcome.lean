namespace KeyChange

variable {ε ε' α β : Type}

theorem bind_eq_ok_iff {x : Except ε α} {f : α → Except ε β} {b : β} :
    x >>= f = .ok b ↔ ∃ a, x = .ok a ∧ f a = .ok b := by
  cases x with
  | error e => simp [bind, Except.bind]
  | ok a => simp [bind, Except.bind]

theorem bind_eq_error_iff {x : Except ε α} {f : α → Except ε β} {e : ε} :
    x >>= f = .error e ↔ x = .error e ∨ ∃ a, x = .ok a ∧ f a = .error e := by
  cases x with
  | error e => simp [bind, Except.bind]
  | ok a => simp [bind, Except.bind]

theorem ok_bind (a : α) (f : α → Except ε β) : (Except.ok a >>= f) = f a := rfl

@[simp] theorem mapError_ok (f : ε → ε') (a : α) :
    (Except.ok a : Except ε α).mapError f = .ok a := rfl

@[simp] theorem mapError_error (f : ε → ε') (e : ε) :
    (Except.error e : Except ε α).mapError f = .error (f e) := rfl

theorem mapError_eq_ok_iff {x : Except ε α} {f : ε → ε'} {a : α} :
    x.mapError f = .ok a ↔ x = .ok a := by
  cases x <;> simp

theorem mapError_eq_error_iff {x : Except ε α} {f : ε → ε'} {e : ε'} :
    x.mapError f = .error e ↔ ∃ e₀, x = .error e₀ ∧ e = f e₀ := by
  cases x <;> simp [eq_comm]

theorem exists_of_isOk {x : Except ε α} (h : x.isOk = true) : ∃ a, x = .ok a := by
  cases x with
  | error e => simp [Except.isOk, Except.toBool] at h
  | ok a => exact ⟨a, rfl⟩

theorem exists_error_iff {x : Except ε α} : (∃ e, x = .error e) ↔ ¬∃ a, x = .ok a := by
  cases x <;> simp

theorem map_eq_ok_iff {x : Except ε α} {f : α → β} {b : β} :
    x.map f = .ok b ↔ ∃ a, x = .ok a ∧ f a = b := by
  cases x <;> simp [Except.map]

theorem map_eq_error_iff {x : Except ε α} {f : α → β} {e : ε} :
    x.map f = .error e ↔ x = .error e := by
  cases x <;> simp [Except.map]

/-- Two outcomes agree if they are one error, or values that agree. -/
theorem map_eq_map_iff {γ : Type} {x : Except ε α} {y : Except ε β} {f : α → γ} {g : β → γ} :
    x.map f = y.map g ↔ (∃ e, x = .error e ∧ y = .error e) ∨
      ∃ a b, x = .ok a ∧ y = .ok b ∧ f a = g b := by
  cases x <;> cases y <;> simp [Except.map, eq_comm]

theorem mapError_ok_bind (f : ε → ε') (a : α) (g : α → Except ε' β) :
    (Except.ok a : Except ε α).mapError f >>= g = g a := rfl

theorem mapError_error_bind (f : ε → ε') (e : ε) (g : α → Except ε' β) :
    (Except.error e : Except ε α).mapError f >>= g = .error (f e) := rfl

theorem check_bind_eq_ok_iff {x : Except ε Unit} {f : Unit → Except ε β} {b : β} :
    x >>= f = .ok b ↔ x = .ok () ∧ f () = .ok b := by
  rw [bind_eq_ok_iff]
  constructor
  · rintro ⟨⟨⟩, hx, hf⟩
    exact ⟨hx, hf⟩
  · rintro ⟨hx, hf⟩
    exact ⟨(), hx, hf⟩

/-- The error of the first condition that does not hold, of conditions looked at in this order. -/
def FirstUnmet : List (Prop × ε) → ε → Prop
  | [], _ => False
  | (condition, error) :: rest, e => ¬condition ∧ e = error ∨ condition ∧ FirstUnmet rest e

theorem exists_firstUnmet_iff {conditions : List (Prop × ε)} :
    (∃ e, FirstUnmet conditions e) ↔ ¬∀ c ∈ conditions, c.1 := by
  induction conditions with
  | nil => simp [FirstUnmet]
  | cons c rest ih =>
    rw [List.forall_mem_cons]
    by_cases h : c.1
    · simpa [FirstUnmet, h] using ih
    · simp [FirstUnmet, h]

theorem FirstUnmet.exists_mem {conditions : List (Prop × ε)} {e : ε} (h : FirstUnmet conditions e) :
    ∃ c ∈ conditions, e = c.2 := by
  induction conditions with
  | nil => exact h.elim
  | cons c rest ih =>
    obtain ⟨-, he⟩ | ⟨-, hrest⟩ := h
    · exact ⟨c, List.mem_cons_self, he⟩
    · obtain ⟨d, hd, he⟩ := ih hrest
      exact ⟨d, List.mem_cons_of_mem c hd, he⟩

theorem firstUnmet_append_iff {conditions more : List (Prop × ε)} {e : ε} :
    FirstUnmet (conditions ++ more) e ↔
      FirstUnmet conditions e ∨ (∀ c ∈ conditions, c.1) ∧ FirstUnmet more e := by
  induction conditions with
  | nil => simp [FirstUnmet]
  | cons c rest ih =>
    rw [List.forall_mem_cons]
    by_cases h : c.1
    · simpa [FirstUnmet, h] using ih
    · simp [FirstUnmet, h]

theorem firstUnmet_map_iff {conditions : List (Prop × ε)} {f : ε → ε'} {e : ε'} :
    FirstUnmet (conditions.map fun c => (c.1, f c.2)) e ↔
      ∃ e₀, FirstUnmet conditions e₀ ∧ e = f e₀ := by
  induction conditions with
  | nil => simp [FirstUnmet]
  | cons c rest ih =>
    by_cases h : c.1
    · simpa [FirstUnmet, h] using ih
    · simp [FirstUnmet, h]

/-- The error is that of the first condition that does not hold. -/
def Reports (x : Except ε α) (conditions : List (Prop × ε)) : Prop :=
  ∀ e, x = .error e ↔ FirstUnmet conditions e

namespace Reports

variable {x : Except ε α} {f : α → Except ε β} {conditions more : List (Prop × ε)} {condition : Prop}
  {error : ε}

theorem ok (a : α) : Reports (.ok a : Except ε α) [] := by
  intro e
  simp [FirstUnmet]

theorem cons (met : condition → Reports x conditions) (unmet : ¬condition → x = .error error) :
    Reports x ((condition, error) :: conditions) := by
  intro e
  by_cases h : condition
  · simpa [FirstUnmet, h] using met h e
  · simp [FirstUnmet, h, unmet h, eq_comm]

theorem tail (h : Reports x ((condition, error) :: conditions)) (met : condition) :
    Reports x conditions := by
  intro e
  simpa [FirstUnmet, met] using h e

theorem guard {refused : Prop} [Decidable refused] (h : refused ↔ ¬condition)
    (met : condition → Reports x conditions) :
    Reports (if refused then .error error else x) ((condition, error) :: conditions) := by
  refine .cons (fun hmet => ?_) fun hunmet => if_pos (h.mpr hunmet)
  rw [if_neg fun hrefused => h.mp hrefused hmet]
  exact met hmet

theorem exists_mem {e : ε} (h : Reports x conditions) (he : x = .error e) :
    ∃ c ∈ conditions, e = c.2 :=
  ((h e).mp he).exists_mem

theorem exists_ok_iff (h : Reports x conditions) :
    (∃ a, x = .ok a) ↔ ∀ c ∈ conditions, c.1 := by
  have herror : (∃ e, x = .error e) ↔ ¬∀ c ∈ conditions, c.1 :=
    (exists_congr h).trans exists_firstUnmet_iff
  cases x with
  | error e => simpa using herror
  | ok a => simpa using herror

theorem eq_ok_iff {x : Except ε Unit} (h : Reports x conditions) :
    x = .ok () ↔ ∀ c ∈ conditions, c.1 :=
  Iff.trans ⟨fun hx => ⟨(), hx⟩, fun ⟨_, hx⟩ => hx⟩ h.exists_ok_iff

theorem bind (hx : Reports x conditions) (hf : ∀ a, x = .ok a → Reports (f a) more) :
    Reports (x >>= f) (conditions ++ more) := by
  intro e
  rw [firstUnmet_append_iff, ← hx e, ← hx.exists_ok_iff]
  cases x with
  | error e' => simp [Bind.bind, Except.bind]
  | ok a => simpa [Bind.bind, Except.bind] using hf a rfl e

theorem mapError (h : Reports x conditions) (g : ε → ε') :
    Reports (x.mapError g) (conditions.map fun c => (c.1, g c.2)) := by
  intro e
  rw [mapError_eq_error_iff, firstUnmet_map_iff]
  exact exists_congr fun e₀ => and_congr_left fun _ => h e₀

end Reports

end KeyChange
