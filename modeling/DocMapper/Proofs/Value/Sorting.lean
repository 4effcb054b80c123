import DocMapper.Proofs.Data.Outcome
import DocMapper.Value.Sorting
import Mathlib.Data.List.Pairwise
/-!
# What a sort comes to

A sort asks which of two elements comes before the other. Where a strict weak order answers
(`Sorting.Answers`), it has a result, with the same elements in the order that was asked for. The
sort is stable: elements that are level stay in the order in which they came, whatever that was
(`Sorting.sort_spec`). So sorting by one thing after another sorts by the last one first.
-/

namespace DocMapper.Sorting

variable {α : Type} {before : α → α → Except Fault Bool} {lt : α → α → Bool} {xs ys : List α}
  {R : α → α → Prop} {x : α}

/-- The question which of two elements of a list comes first is answered by a strict weak order. -/
structure Answers (before : α → α → Except Fault Bool) (lt : α → α → Bool) (xs : List α) :
    Prop where
  answer : ∀ a ∈ xs, ∀ b ∈ xs, before a b = .ok (lt a b)
  asymm : ∀ a ∈ xs, ∀ b ∈ xs, lt a b = true → lt b a = false
  trans : ∀ a ∈ xs, ∀ b ∈ xs, ∀ c ∈ xs, lt a b = false → lt b c = false → lt a c = false

/-- What goes before what in the result of a sort: what comes first, and of two that are level the
one that was in front of the other. -/
def Goes (lt : α → α → Bool) (R : α → α → Prop) (a b : α) : Prop :=
  lt a b = true ∨ (lt b a = false ∧ R a b)

theorem Answers.mono (h : Answers before lt xs) (hys : ∀ a ∈ ys, a ∈ xs) :
    Answers before lt ys where
  answer a ha b hb := h.answer a (hys a ha) b (hys b hb)
  asymm a ha b hb := h.asymm a (hys a ha) b (hys b hb)
  trans a ha b hb c hc := h.trans a (hys a ha) b (hys b hb) c (hys c hc)

/-- Both the order and its complement lead on. -/
theorem Answers.lead (h : Answers before lt xs) {a b c : α} (ha : a ∈ xs) (hb : b ∈ xs)
    (hc : c ∈ xs) {descending : Bool} (hab : lt a b = descending) (hbc : lt b c = descending) :
    lt a c = descending := by
  cases descending with
  | false => exact h.trans a ha b hb c hc hab hbc
  | true =>
    by_contra hac
    rw [Bool.not_eq_true] at hac
    have hcb : lt c b = false := h.asymm b hb c hc hbc
    rw [h.trans a ha c hc b hb hac hcb] at hab
    cases hab

/-- What goes before something does not come after it. -/
theorem Answers.not_lt_of_goes (h : Answers before lt xs) {a b : α} (ha : a ∈ xs) (hb : b ∈ xs)
    (hab : Goes lt R a b) : lt b a = false := by
  rcases hab with hlt | ⟨hlevel, -⟩
  · exact h.asymm a ha b hb hlt
  · exact hlevel

/-! ## Putting an element in its place -/

/-- **The place of an element** is behind all that it does not come before. -/
theorem place_spec (h : Answers before lt (x :: xs))
    (hsorted : xs.Pairwise fun a b => lt b a = false) {low high : Nat} (hlow : low ≤ high) (hhigh : high ≤ xs.length)
    (hfront : ∀ j y, xs[j]? = some y → j < low → lt x y = false)
    (hback : ∀ j y, xs[j]? = some y → high ≤ j → lt x y = true) :
    ∃ i, place before xs x low high = .ok i ∧
      (∀ j y, xs[j]? = some y → j < i → lt x y = false) ∧
      (∀ j y, xs[j]? = some y → i ≤ j → lt x y = true) := by
  have hx : x ∈ x :: xs := List.mem_cons_self
  have hmem : ∀ {j : Nat} {y}, xs[j]? = some y → y ∈ x :: xs := fun hj =>
    List.mem_cons_of_mem _ (List.mem_of_getElem? hj)
  have hpair : ∀ {i j : Nat} {y z}, xs[i]? = some y → xs[j]? = some z → i < j → lt z y = false := by
    intro i j y z hi hj hij
    obtain ⟨hi', rfl⟩ := List.getElem?_eq_some_iff.1 hi
    obtain ⟨hj', rfl⟩ := List.getElem?_eq_some_iff.1 hj
    exact List.pairwise_iff_getElem.1 hsorted i j hi' hj' hij
  induction hn : high - low using Nat.strongRecOn generalizing low high with
  | ind n ih =>
    rw [place]
    by_cases hlt : low < high
    · have hmiddle : low + (high - low) / 2 < xs.length := by omega
      have hy : xs[low + (high - low) / 2]? = some xs[low + (high - low) / 2] :=
        List.getElem?_eq_getElem hmiddle
      generalize xs[low + (high - low) / 2] = y at hy
      simp only [hlt, if_true, hy, h.answer x hx y (hmem hy), bind, Except.bind]
      cases hxy : lt x y with
      | true =>
        -- all that stands behind the middle comes after the element, too
        refine ih _ (by omega) (by omega) (by omega) hfront (fun j z hj hle => ?_) rfl
        rcases Nat.eq_or_lt_of_le hle with rfl | hlater
        · rw [hy] at hj
          exact Option.some.inj hj ▸ hxy
        · by_contra hxz
          rw [Bool.not_eq_true] at hxz
          rw [h.trans x hx z (hmem hj) y (hmem hy) hxz (hpair hy hj hlater)] at hxy
          cases hxy
      | false =>
        refine ih _ (by omega) (by omega) (by omega) (fun j z hj hle => ?_) hback rfl
        rcases Nat.eq_or_lt_of_le (Nat.le_of_lt_succ hle) with rfl | hearlier
        · rw [hy] at hj
          exact Option.some.inj hj ▸ hxy
        · exact h.trans x hx y (hmem hy) z (hmem hj) hxy (hpair hj hy hearlier)
    · simp only [hlt, if_false]
      have heq : low = high := by omega
      exact ⟨low, rfl, hfront, heq ▸ hback⟩

/-- **An element that is put in its place** goes behind all that is level with it. -/
theorem insert_spec (h : Answers before lt (x :: xs)) (hsorted : xs.Pairwise (Goes lt R))
    (hR : ∀ a ∈ xs, R a x) : ∃ ys, insert before xs x = .ok ys ∧ ys.Perm (x :: xs) ∧
      ys.Pairwise (Goes lt R) := by
  have hlevel : xs.Pairwise fun a b => lt b a = false :=
    hsorted.imp_of_mem fun ha hb hab =>
      h.not_lt_of_goes (List.mem_cons_of_mem _ ha) (List.mem_cons_of_mem _ hb) hab
  obtain ⟨i, hi, hfront, hback⟩ := place_spec h hlevel (Nat.zero_le _) (Nat.le_refl _)
    (fun _ _ _ hj => absurd hj (Nat.not_lt_zero _))
    (fun j y hj hle => by
      obtain ⟨hlt, -⟩ := List.getElem?_eq_some_iff.1 hj
      omega)
  have hparts : (xs.take i ++ xs.drop i).Pairwise (Goes lt R) := by rwa [List.take_append_drop]
  obtain ⟨htake, hdrop, hcross⟩ := List.pairwise_append.1 hparts
  refine ⟨xs.take i ++ x :: xs.drop i, by rw [insert, hi]; rfl, ?_, ?_⟩
  · have hmiddle : (xs.take i ++ x :: xs.drop i).Perm (x :: (xs.take i ++ xs.drop i)) :=
      List.perm_middle
    rwa [List.take_append_drop] at hmiddle
  · refine List.pairwise_append.2 ⟨htake, List.pairwise_cons.2 ⟨fun b hb => ?_, hdrop⟩, ?_⟩
    · obtain ⟨j, hj⟩ := List.mem_iff_getElem?.1 hb
      rw [List.getElem?_drop] at hj
      exact Or.inl (hback _ b hj (Nat.le_add_right i j))
    · intro a ha b hb
      rcases List.mem_cons.1 hb with rfl | hb
      · obtain ⟨j, hj⟩ := List.mem_iff_getElem?.1 ha
        rw [List.getElem?_take] at hj
        split at hj
        · rename_i hlt
          exact Or.inr ⟨hfront j a hj hlt, hR a (List.mem_of_mem_take ha)⟩
        · cases hj
      · exact hcross a ha b hb

/-- Elements that are put in their places, one after another. -/
theorem foldlM_insert_spec {run rest : List α} (h : Answers before lt (run ++ rest))
    (hrun : run.Pairwise (Goes lt R)) (hrest : rest.Pairwise R)
    (hR : ∀ a ∈ run, ∀ b ∈ rest, R a b) :
    ∃ ys, rest.foldlM (insert before) run = .ok ys ∧ ys.Perm (run ++ rest) ∧
      ys.Pairwise (Goes lt R) := by
  induction rest generalizing run with
  | nil => exact ⟨run, rfl, by simp, hrun⟩
  | cons x rest ih =>
    obtain ⟨hx, hrest⟩ := List.pairwise_cons.1 hrest
    have hfirst : Answers before lt (x :: run) := h.mono (by simp; tauto)
    obtain ⟨mid, hinsert, hperm, hmid⟩ := insert_spec hfirst hrun fun a ha => hR a ha x (by simp)
    have hall : (mid ++ rest).Perm (run ++ x :: rest) :=
      (hperm.append_right rest).trans (List.perm_middle.symm)
    obtain ⟨ys, hys, hysperm, hsorted⟩ := ih (h.mono fun a ha => hall.mem_iff.1 ha) hmid hrest (by
      intro a ha b hb
      rcases List.mem_cons.1 (hperm.mem_iff.1 ha) with rfl | ha
      · exact hx b hb
      · exact hR a ha b (List.mem_cons_of_mem _ hb))
    refine ⟨ys, ?_, hysperm.trans hall, hsorted⟩
    rw [List.foldlM_cons, hinsert]
    exact hys

/-! ## The run at the head -/

/-- **The elements that continue a run** descend or ascend with it. -/
theorem runLength_spec {last : α} (h : Answers before lt (last :: xs)) (descending : Bool) :
    ∃ n, runLength before descending last xs = .ok n ∧
      (last :: xs.take n).Pairwise fun a b => lt b a = descending := by
  induction xs generalizing last with
  | nil => exact ⟨0, rfl, by simp⟩
  | cons x rest ih =>
    have hanswer : before x last = .ok (lt x last) := h.answer x (by simp) last (by simp)
    rw [runLength, hanswer]
    by_cases hlt : lt x last = descending
    · obtain ⟨n, hn, hpairwise⟩ := ih (h.mono fun a ha => List.mem_cons_of_mem _ ha)
      refine ⟨n + 1, by simp [bind, Except.bind, hlt, hn, pure, Except.pure], ?_⟩
      rw [List.take_succ_cons]
      refine List.pairwise_cons.2 ⟨fun b hb => ?_, hpairwise⟩
      rcases List.mem_cons.1 hb with rfl | hb
      · exact hlt
      · have hbx : lt b x = descending := (List.pairwise_cons.1 hpairwise).1 b hb
        have hbmem : b ∈ last :: x :: rest := by simp [List.mem_of_mem_take hb]
        exact h.lead hbmem (by simp) (by simp) hbx hlt
    · exact ⟨0, by simp [bind, Except.bind, hlt, pure, Except.pure], by simp⟩

/-- **The run at the head of a list** is in order, and the rest of the list follows it. -/
theorem leadingRun_spec (h : Answers before lt xs) (hR : xs.Pairwise R) :
    ∃ run n, leadingRun before xs = .ok (run, xs.drop n) ∧ run.Perm (xs.take n) ∧
      run.Pairwise (Goes lt R) := by
  match xs, h, hR with
  | [], _, _ => exact ⟨[], 0, rfl, by simp, by simp⟩
  | [x], _, _ => exact ⟨[x], 1, rfl, by simp, by simp⟩
  | x :: y :: rest, h, hR =>
    have hanswer : before y x = .ok (lt y x) := h.answer y (by simp) x (by simp)
    obtain ⟨n, hn, hpairwise⟩ :=
      runLength_spec (h.mono fun a ha => List.mem_cons_of_mem x ha) (lt y x)
    have hall : ((x :: y :: rest).take (2 + n)).Pairwise fun a b => lt b a = lt y x := by
      rw [Nat.add_comm, List.take_succ_cons, List.take_succ_cons]
      refine List.pairwise_cons.2 ⟨fun b hb => ?_, hpairwise⟩
      rcases List.mem_cons.1 hb with rfl | hb
      · rfl
      · have hby : lt b y = lt y x := (List.pairwise_cons.1 hpairwise).1 b hb
        have hbmem : b ∈ x :: y :: rest := by simp [List.mem_of_mem_take hb]
        exact h.lead hbmem (by simp) (by simp) hby rfl
    refine ⟨_, 2 + n, by simp only [leadingRun, hanswer, hn, bind, Except.bind]; rfl, ?_, ?_⟩
    · split
      · exact List.reverse_perm _
      · exact List.Perm.refl _
    · split
      · rename_i hdescending
        rw [List.pairwise_reverse]
        exact hall.imp fun hab => Or.inl (hab.trans hdescending)
      · rename_i hascending
        rw [Bool.not_eq_true] at hascending
        have htake := hR.sublist (List.take_sublist (2 + n) _)
        exact hall.imp₂ (fun a b hab hRab => Or.inr ⟨hab.trans hascending, hRab⟩) htake

/-! ## Sorting -/

theorem ascending_spec (h : Answers before lt xs) (hR : xs.Pairwise R) :
    ∃ ys, ascending before xs = .ok ys ∧ ys.Perm xs ∧ ys.Pairwise (Goes lt R) := by
  obtain ⟨run, n, hrun, hperm, hsorted⟩ := leadingRun_spec h hR
  have hall : (run ++ xs.drop n).Perm xs := by
    have hparts := hperm.append_right (xs.drop n)
    rwa [List.take_append_drop] at hparts
  have hparts : (xs.take n ++ xs.drop n).Pairwise R := by rwa [List.take_append_drop]
  obtain ⟨-, hdrop, hcross⟩ := List.pairwise_append.1 hparts
  obtain ⟨ys, hys, hysperm, hyssorted⟩ := foldlM_insert_spec
    (h.mono fun a ha => hall.mem_iff.1 ha) hsorted hdrop
    fun a ha b hb => hcross a (hperm.mem_iff.1 ha) b hb
  refine ⟨ys, ?_, hysperm.trans hall, hyssorted⟩
  rw [ascending, hrun]
  exact hys

/-- An order, or the same order turned around. -/
def turned (descending : Bool) (lt : α → α → Bool) (a b : α) : Bool :=
  if descending then lt b a else lt a b

/-- **A sort gives the same elements in order**, and what is level stays as it was. -/
theorem sort_spec (h : Answers before lt xs) (hR : xs.Pairwise R) (descending : Bool) :
    ∃ ys, sort before descending xs = .ok ys ∧ ys.Perm xs ∧
      ys.Pairwise (Goes (turned descending lt) R) := by
  cases descending with
  | false => exact ascending_spec h hR
  | true =>
    have hturned : xs.reverse.Pairwise fun a b => R b a := List.pairwise_reverse.2 hR
    obtain ⟨ys, hys, hperm, hsorted⟩ :=
      ascending_spec (h.mono fun a ha => List.mem_reverse.1 ha) hturned
    refine ⟨ys.reverse, by simp [sort, hys, bind, Except.bind, pure, Except.pure], ?_, ?_⟩
    · exact (List.reverse_perm ys).trans (hperm.trans (List.reverse_perm xs))
    · exact List.pairwise_reverse.2 hsorted

/-! ## Sorts without an order

Whatever answers the questions, the result of a sort has the same elements.
-/

theorem perm_of_insert (h : insert before xs x = .ok ys) : ys.Perm (x :: xs) := by
  obtain ⟨i, -, hys⟩ := Except.bind_eq_ok.1 h
  cases hys
  have hmiddle : (xs.take i ++ x :: xs.drop i).Perm (x :: (xs.take i ++ xs.drop i)) :=
    List.perm_middle
  rwa [List.take_append_drop] at hmiddle

theorem perm_of_foldlM_insert {run rest : List α} (h : rest.foldlM (insert before) run = .ok ys) :
    ys.Perm (run ++ rest) := by
  induction rest generalizing run with
  | nil =>
    cases h
    simp
  | cons x rest ih =>
    rw [List.foldlM_cons] at h
    obtain ⟨longer, hlonger, h⟩ := Except.bind_eq_ok.1 h
    refine (ih h).trans (((perm_of_insert hlonger).append_right rest).trans ?_)
    exact List.perm_middle.symm

theorem perm_of_leadingRun {run rest : List α} (h : leadingRun before xs = .ok (run, rest)) :
    (run ++ rest).Perm xs := by
  match xs, h with
  | [], h =>
    cases h
    simp
  | [x], h =>
    cases h
    simp
  | x :: y :: more, h =>
    obtain ⟨descending, -, h⟩ := Except.bind_eq_ok.1 h
    obtain ⟨n, -, h⟩ := Except.bind_eq_ok.1 h
    cases h
    have hparts := List.take_append_drop (2 + n) (x :: y :: more)
    cases descending with
    | false => exact .of_eq hparts
    | true => exact ((List.reverse_perm _).append_right _).trans (.of_eq hparts)

theorem perm_of_ascending (h : ascending before xs = .ok ys) : ys.Perm xs := by
  obtain ⟨⟨run, rest⟩, hrun, h⟩ := Except.bind_eq_ok.1 h
  exact (perm_of_foldlM_insert h).trans (perm_of_leadingRun hrun)

/-- **A sort that has a result gives the same elements**, whatever answers its questions. -/
theorem perm_of_sort {descending : Bool} (h : sort before descending xs = .ok ys) :
    ys.Perm xs := by
  cases descending with
  | false => exact perm_of_ascending h
  | true =>
    obtain ⟨sorted, hsorted, h⟩ := Except.bind_eq_ok.1 h
    cases h
    exact (List.reverse_perm _).trans ((perm_of_ascending hsorted).trans (List.reverse_perm xs))

end DocMapper.Sorting
