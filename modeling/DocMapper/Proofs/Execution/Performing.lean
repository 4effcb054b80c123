import DocMapper.Action
/-!
# Performing composed actions

The laws of `Action.perform` for the ways in which larger actions are written: mapped results,
checks without effects, and what follows an action that is known to succeed or to fail.

`Action.Preserves P action` says that an action keeps something of the state (`P`), however it ends.
-/

namespace DocMapper.Action

variable {σ τ α β : Type}

@[simp] theorem perform_map (f : α → β) (action : Action σ α) (s : σ) :
    perform (f <$> action) s = ((perform action s).1.map f, (perform action s).2) := by
  rw [← bind_pure_comp, perform_bind]
  rcases perform action s with ⟨_ | _, _⟩ <;> rfl

@[simp] theorem perform_liftM (r : Except Fault α) (s : σ) :
    perform (liftM r : Action σ α) s = (r, s) := rfl

/-- What follows an action that succeeds starts from the state that it leaves. -/
theorem perform_bind_ok {action : Action σ α} {next : α → Action σ β} {s t : σ} {a : α}
    (h : action.perform s = (.ok a, t)) : (action >>= next).perform s = (next a).perform t := by
  rw [perform_bind, h]

/-- Nothing follows an action that fails. -/
theorem perform_bind_error {action : Action σ α} {next : α → Action σ β} {s t : σ} {fault : Fault}
    (h : action.perform s = (.error fault, t)) :
    (action >>= next).perform s = (.error fault, t) := by
  rw [perform_bind, h]

theorem perform_map_error {f : α → β} {action : Action σ α} {s t : σ} {fault : Fault}
    (h : action.perform s = (.error fault, t)) : (f <$> action).perform s = (.error fault, t) := by
  rw [perform_map, h]
  rfl

/-- What an action and what follows it come to together, each of them comes to. -/
theorem perform_bind_eq_ok {action : Action σ α} {next : α → Action σ β} {s u : σ} {b : β} :
    (action >>= next).perform s = (.ok b, u) ↔
      ∃ a t, action.perform s = (.ok a, t) ∧ (next a).perform t = (.ok b, u) := by
  rw [perform_bind]
  rcases action.perform s with ⟨_ | a, t⟩
  · simp
  · exact ⟨fun h => ⟨a, t, rfl, h⟩, by rintro ⟨_, _, ⟨⟩, h⟩; exact h⟩

/-! ## Actions on each element -/

/-- Whatever is done for each element is done for the first and then for the others. -/
theorem perform_mapM_cons (f : α → Action σ β) (x : α) (xs : List α) (s : σ) :
    perform ((x :: xs).mapM f) s =
      match perform (f x) s with
      | (.ok y, t) => ((perform (xs.mapM f) t).1.map (y :: ·), (perform (xs.mapM f) t).2)
      | (.error fault, t) => (.error fault, t) := by
  rw [List.mapM_cons, perform_bind]
  rcases perform (f x) s with ⟨_ | y, t⟩
  · rfl
  · simp only [perform_bind, perform_pure]
    rcases perform (xs.mapM f) t with ⟨_ | ys, u⟩ <;> rfl

/-- What is done with each result can be done in the end. -/
theorem perform_mapM_map {γ : Type} (g : β → γ) (f : α → Action σ β) (xs : List α) (s : σ) :
    perform (xs.mapM fun x => g <$> f x) s =
      ((perform (xs.mapM f) s).1.map (List.map g), (perform (xs.mapM f) s).2) := by
  induction xs generalizing s with
  | nil => rfl
  | cons x rest ih =>
    rw [perform_mapM_cons, perform_mapM_cons, perform_map]
    rcases perform (f x) s with ⟨_ | y, t⟩
    · rfl
    · simp only [Except.map, ih]
      rcases perform (rest.mapM f) t with ⟨_ | ys, u⟩ <;> rfl

/-- Steps that succeed one by one, as long as the state is as they need it, succeed together. -/
theorem perform_forM_ok {P : σ → Prop} {step : α → Action σ PUnit} {next : σ → α → σ} {xs : List α}
    (h : ∀ x ∈ xs, ∀ s, P s → (step x).perform s = (.ok ⟨⟩, next s x) ∧ P (next s x)) {s : σ}
    (hs : P s) : (xs.forM step).perform s = (.ok ⟨⟩, xs.foldl next s) := by
  induction xs generalizing s with
  | nil => rfl
  | cons x rest ih =>
    obtain ⟨hx, hrest⟩ := List.forall_mem_cons.1 h
    obtain ⟨hstep, hnext⟩ := hx s hs
    have hcons : (x :: rest).forM step = step x >>= fun _ => rest.forM step := rfl
    rw [hcons, perform_bind_ok hstep, List.foldl_cons]
    exact ih hrest hnext

/-- Where some step is bound to fail, the steps together come to a fault of one of them. -/
theorem perform_forM_error {P : σ → Prop} {Good : α → Prop} {Q : α → Fault → Prop}
    {step : α → Action σ PUnit} {xs : List α}
    (hgood : ∀ x ∈ xs, Good x → ∀ s, P s → ∃ t, (step x).perform s = (.ok ⟨⟩, t) ∧ P t)
    (hbad : ∀ x ∈ xs, ¬ Good x → ∀ s, P s →
      ∃ fault t, (step x).perform s = (.error fault, t) ∧ Q x fault)
    {s : σ} (hs : P s) (h : ¬ ∀ x ∈ xs, Good x) :
    ∃ x ∈ xs, ∃ fault t, (xs.forM step).perform s = (.error fault, t) ∧ Q x fault := by
  induction xs generalizing s with
  | nil => exact absurd (fun x hx => absurd hx List.not_mem_nil) h
  | cons x rest ih =>
    have hcons : (x :: rest).forM step = step x >>= fun _ => rest.forM step := rfl
    rw [hcons]
    by_cases hx : Good x
    · obtain ⟨t, hstep, ht⟩ := hgood x List.mem_cons_self hx s hs
      obtain ⟨y, hy, fault, u, hrun, hQ⟩ := ih (fun y hy => hgood y (List.mem_cons_of_mem _ hy))
        (fun y hy => hbad y (List.mem_cons_of_mem _ hy)) ht
        fun hall => h (List.forall_mem_cons.2 ⟨hx, hall⟩)
      exact ⟨y, List.mem_cons_of_mem _ hy, fault, u, by rw [perform_bind_ok hstep, hrun], hQ⟩
    · obtain ⟨fault, t, hstep, hQ⟩ := hbad x List.mem_cons_self hx s hs
      exact ⟨x, List.mem_cons_self, fault, t, perform_bind_error hstep, hQ⟩

/-! ## What an action keeps -/

/-- An action keeps something of the state, however it ends. -/
def Preserves (P : σ → Prop) (action : Action σ α) : Prop := ∀ s, P s → P (action.perform s).2

variable {P : σ → Prop}

theorem Preserves.pure (a : α) : Preserves P (pure a : Action σ α) := fun _ h => h

theorem Preserves.lift (r : Except Fault α) : Preserves P (liftM r : Action σ α) := fun _ h => h

theorem Preserves.throw (fault : Fault) : Preserves P (throw fault : Action σ α) := fun _ h => h

theorem Preserves.bind {action : Action σ α} {next : α → Action σ β} (haction : Preserves P action)
    (hnext : ∀ a, Preserves P (next a)) : Preserves P (action >>= next) := by
  intro s h
  have hafter := haction s h
  rw [perform_bind]
  generalize action.perform s = outcome at hafter
  obtain ⟨_ | a, after⟩ := outcome
  · exact hafter
  · exact hnext a after hafter

/-- What follows a computation without effects has to keep it only where there is a result. -/
theorem Preserves.lift_bind {r : Except Fault α} {next : α → Action σ β}
    (hnext : ∀ a, r = .ok a → Preserves P (next a)) :
    Preserves P (liftM r >>= next : Action σ β) := by
  intro s h
  rw [perform_bind, perform_liftM]
  cases hr : r with
  | error fault => exact h
  | ok a => exact hnext a hr s h

theorem Preserves.map (f : α → β) {action : Action σ α} (h : Preserves P action) :
    Preserves P (f <$> action) := by
  intro s hs
  rw [perform_map]
  exact h s hs

/-- What each of some actions keeps, all of them keep. -/
theorem Preserves.forM {step : α → Action σ PUnit} {xs : List α}
    (h : ∀ x ∈ xs, Preserves P (step x)) : Preserves P (xs.forM step) := by
  induction xs with
  | nil => exact Preserves.pure _
  | cons x rest ih =>
    obtain ⟨hx, hrest⟩ := List.forall_mem_cons.1 h
    exact hx.bind fun _ => ih hrest

theorem Preserves.attempt {action : Action σ α} (h : Preserves P action) :
    Preserves P action.attempt := h

/-- What is true of a larger state for the sake of a part of it, actions on that part keep. -/
theorem Preserves.zoom {get : τ → σ} {set : σ → τ → τ} (hget : ∀ s t, get (set s t) = s)
    {action : Action σ α} (h : Preserves P action) :
    Preserves (fun t => P (get t)) (action.zoom get set) := by
  intro t ht
  rw [perform_zoom, hget]
  exact h _ ht

end DocMapper.Action
