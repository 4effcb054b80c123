import DocMapper.Schema.Flaw
import Mathlib.Data.List.Forall2
/-!
# Outcomes that succeed

When a composed computation succeeds, so do its parts: the inversions for the ways in which
computations without effects and checks are composed.
-/

namespace DocMapper

variable {ε ε' α β : Type}

theorem Except.bind_eq_ok {x : Except ε α} {f : α → Except ε β} {b : β} :
    (x >>= f) = .ok b ↔ ∃ a, x = .ok a ∧ f a = .ok b := by
  cases x with
  | error e => simp [bind, Except.bind]
  | ok a => simp [bind, Except.bind]

theorem Except.map_eq_ok {x : Except ε α} {f : α → β} {b : β} :
    x.map f = .ok b ↔ ∃ a, x = .ok a ∧ f a = b := by
  cases x with
  | error e => simp [Except.map]
  | ok a => simp [Except.map]

theorem Except.mapError_eq_ok {x : Except ε α} {f : ε → ε'} {a : α} :
    x.mapError f = .ok a ↔ x = .ok a := by
  cases x with
  | error e => exact ⟨nofun, nofun⟩
  | ok a =>
    constructor
    all_goals intro h; cases h; rfl

theorem Except.toOption_eq_some {x : Except ε α} {a : α} : x.toOption = some a ↔ x = .ok a := by
  cases x <;> simp [Except.toOption]

/-- What each element has to do with can be listed beside the elements. -/
theorem exists_forall₂ {R : α → β → Prop} {xs : List α} (h : ∀ x ∈ xs, ∃ y, R x y) :
    ∃ ys, List.Forall₂ R xs ys := by
  induction xs with
  | nil => exact ⟨[], .nil⟩
  | cons x rest ih =>
    obtain ⟨⟨y, hy⟩, hrest⟩ := List.forall_mem_cons.1 h
    obtain ⟨ys, hys⟩ := ih hrest
    exact ⟨y :: ys, .cons hy hys⟩

/-- What is listed beside some elements has to do with one of them. -/
theorem exists_mem_of_forall₂ {R : α → β → Prop} {xs : List α} {ys : List β}
    (h : List.Forall₂ R xs ys) {y : β} (hy : y ∈ ys) : ∃ x ∈ xs, R x y := by
  induction h with
  | nil => cases hy
  | cons hxy _ ih =>
    rcases List.mem_cons.1 hy with rfl | hy
    · exact ⟨_, List.mem_cons_self, hxy⟩
    · obtain ⟨x, hx, hR⟩ := ih hy
      exact ⟨x, List.mem_cons_of_mem _ hx, hR⟩

/-- A computation for each of some elements succeeds if it does for every one. -/
theorem Except.mapM_eq_ok {f : α → Except ε β} {xs : List α} {ys : List β} :
    xs.mapM f = .ok ys ↔ List.Forall₂ (fun x y => f x = .ok y) xs ys := by
  induction xs generalizing ys with
  | nil => cases ys <;> simp [pure, Except.pure]
  | cons x rest ih =>
    rw [List.mapM_cons, Except.bind_eq_ok, List.forall₂_cons_left_iff]
    constructor
    · rintro ⟨y, hy, h⟩
      obtain ⟨ys, hys, h⟩ := Except.bind_eq_ok.1 h
      cases h
      exact ⟨y, ys, hy, ih.1 hys, rfl⟩
    · rintro ⟨y, ys, hy, hys, rfl⟩
      exact ⟨y, hy, Except.bind_eq_ok.2 ⟨ys, ih.2 hys, rfl⟩⟩

/-- A computation that succeeds for each of some elements gives the list of the results. -/
theorem Except.mapM_eq_map {f : α → Except ε β} {g : α → β} {xs : List α}
    (h : ∀ x ∈ xs, f x = .ok (g x)) : xs.mapM f = .ok (xs.map g) :=
  Except.mapM_eq_ok.2 (List.forall₂_map_right_iff.2 (List.forall₂_same.2 h))

/-- The results keep what each of them has to do with what its element stands for. -/
theorem Except.exists_mapM_of_forall₂ {γ : Type} {R : α → γ → Prop} {S : β → γ → Prop}
    {f : α → Except ε β} (hf : ∀ x z, R x z → ∃ y, f x = .ok y ∧ S y z) {xs : List α} {zs : List γ}
    (h : List.Forall₂ R xs zs) : ∃ ys, xs.mapM f = .ok ys ∧ List.Forall₂ S ys zs := by
  induction h with
  | nil => exact ⟨[], rfl, .nil⟩
  | @cons x z rest zs hx _ ih =>
    obtain ⟨y, hy, hS⟩ := hf x z hx
    obtain ⟨ys, hys, hSs⟩ := ih
    exact ⟨y :: ys, Except.mapM_eq_ok.2 (.cons hy (Except.mapM_eq_ok.1 hys)), .cons hS hSs⟩

/-- Two computations that succeed together for each of some elements give two lists that correspond. -/
theorem Except.exists_mapM_mapM {γ : Type} {R : β → γ → Prop} {f : α → Except ε β}
    {g : α → Except ε γ} {xs : List α}
    (h : ∀ x ∈ xs, ∃ y z, f x = .ok y ∧ g x = .ok z ∧ R y z) :
    ∃ ys zs, xs.mapM f = .ok ys ∧ xs.mapM g = .ok zs ∧ List.Forall₂ R ys zs := by
  induction xs with
  | nil => exact ⟨[], [], rfl, rfl, .nil⟩
  | cons x rest ih =>
    obtain ⟨⟨y, z, hf, hg, hR⟩, hrest⟩ := List.forall_mem_cons.1 h
    obtain ⟨ys, zs, hfs, hgs, hRs⟩ := ih hrest
    exact ⟨y :: ys, z :: zs, Except.mapM_eq_ok.2 (.cons hf (Except.mapM_eq_ok.1 hfs)),
      Except.mapM_eq_ok.2 (.cons hg (Except.mapM_eq_ok.1 hgs)), .cons hR hRs⟩

/-- What each step of a loop that is never left early has made sure of. -/
theorem Except.forall_of_forIn {step : α → PUnit.{1} → Except ε (ForInStep PUnit.{1})}
    {P : α → Prop} (hstep : ∀ x r, step x ⟨⟩ = .ok r → P x ∧ r = .yield ⟨⟩) {xs : List α}
    {u : PUnit} (h : forIn xs PUnit.unit step = .ok u) : ∀ x ∈ xs, P x := by
  induction xs with
  | nil => simp
  | cons x rest ih =>
    rw [List.forIn_cons] at h
    obtain ⟨r, hr, h⟩ := Except.bind_eq_ok.1 h
    obtain ⟨hx, rfl⟩ := hstep x r hr
    exact List.forall_mem_cons.2 ⟨hx, ih h⟩

namespace Checked

theorem under_eq_ok {member : String} {c : Checked α} {a : α} :
    under member c = .ok a ↔ c = .ok a := by
  rw [under, Except.mapError_eq_ok]

theorem both_eq_ok {x : Checked α} {y : Checked β} {p : α × β} :
    both x y = .ok p ↔ x = .ok p.1 ∧ y = .ok p.2 := by
  obtain ⟨a, b⟩ := p
  cases x <;> cases y <;> simp [both]

theorem all_eq_ok {cs : List (Checked α)} {as : List α} :
    all cs = .ok as ↔ cs = as.map .ok := by
  induction cs generalizing as with
  | nil => cases as <;> simp [all]
  | cons c rest ih =>
    rw [all, Except.map_eq_ok]
    cases as with
    | nil => simp
    | cons a as => simp [both_eq_ok, ih]

/-- Checks that are told apart by their positions pass when they pass at all. -/
theorem mapIdx_under_eq {f : α → Checked β} {items : List α} {values : List β}
    (g : Nat → String) : (items.mapIdx fun i v => under (g i) (f v)) = values.map .ok ↔
      items.map f = values.map .ok := by
  induction items generalizing values g with
  | nil => simp
  | cons v rest ih =>
    cases values with
    | nil => simp
    | cons w others =>
      simp only [List.mapIdx_cons, List.map_cons, List.cons.injEq, under_eq_ok,
        ih fun i => g (i + 1)]

end Checked

end DocMapper
