import Mathlib.Data.List.Forall2
import FlowConverter.Report

/-! Taking outcomes apart. A computation that ends well has ended well at every step, and the outcome
of a logged computation does not depend on its log, so statements about outcomes are reduced to
plain `Except` computations. -/
namespace FlowConverter

variable {ε α β : Type}

theorem bind_eq_ok_iff {x : Except Fault α} {f : α → Except Fault β} {b : β} :
    x >>= f = .ok b ↔ ∃ a, x = .ok a ∧ f a = .ok b := by
  cases x with
  | error e => simp [bind, Except.bind]
  | ok a => simp [bind, Except.bind]

@[simp] theorem ok_bind (a : α) (f : α → Except Fault β) : (Except.ok a >>= f) = f a := rfl

@[simp] theorem error_bind (e : Fault) (f : α → Except Fault β) :
    (Except.error e >>= f) = .error e := rfl

theorem map_eq_ok_iff {x : Except Fault α} {f : α → β} {b : β} :
    x.map f = .ok b ↔ ∃ a, x = .ok a ∧ f a = b := by
  cases x <;> simp [Except.map]

theorem map_eq_error_iff {x : Except Fault α} {f : α → β} {e : Fault} :
    x.map f = .error e ↔ x = .error e := by
  cases x <;> simp [Except.map]

theorem map_bind_pure {γ : Type} (x : Except Fault α) (g : α → β) (f : β → γ) :
    (x >>= fun a => pure (g a)).map f = x.map fun a => f (g a) := by
  cases x with
  | error e => rfl
  | ok a => rfl

theorem pure_eq_ok (a : α) : (pure a : Except Fault α) = .ok a := rfl

theorem throw_eq_error (e : Fault) : (throw e : Except Fault α) = .error e := rfl

/-- A list is gone through to its end exactly if each item has a result. -/
theorem mapM_eq_ok_iff (f : α → Except Fault β) (xs : List α) (ys : List β) :
    xs.mapM f = .ok ys ↔ List.Forall₂ (fun x y => f x = .ok y) xs ys := by
  induction xs generalizing ys with
  | nil =>
    rw [List.mapM_nil, pure_eq_ok, List.forall₂_nil_left_iff]
    exact ⟨fun h => (Except.ok.inj h).symm, fun h => congrArg _ h.symm⟩
  | cons x xs ih =>
    rw [List.mapM_cons, bind_eq_ok_iff, List.forall₂_cons_left_iff]
    constructor
    · rintro ⟨y, hy, h⟩
      obtain ⟨zs, hzs, h⟩ := bind_eq_ok_iff.mp h
      exact ⟨y, zs, hy, (ih zs).mp hzs, (Except.ok.inj h).symm⟩
    · rintro ⟨y, zs, hy, hzs, rfl⟩
      exact ⟨y, hy, bind_eq_ok_iff.mpr ⟨zs, (ih zs).mpr hzs, rfl⟩⟩

theorem mapM_eq_ok_map {f : α → Except Fault β} {g : α → β} {xs : List α}
    (h : ∀ x ∈ xs, f x = .ok (g x)) : xs.mapM f = .ok (xs.map g) := by
  rw [mapM_eq_ok_iff, List.forall₂_map_right_iff]
  exact List.forall₂_same.mpr h

/-- Each result of a walk through a list comes from one of its items. -/
theorem exists_of_mem_mapM {f : α → Except Fault β} {xs : List α} {ys : List β}
    (h : xs.mapM f = .ok ys) {y : β} (hy : y ∈ ys) : ∃ x ∈ xs, f x = .ok y := by
  rw [mapM_eq_ok_iff] at h
  induction h with
  | nil => cases hy
  | cons hx _ ih =>
    rcases List.mem_cons.mp hy with rfl | hy
    · exact ⟨_, List.mem_cons_self, hx⟩
    · obtain ⟨x, hm, he⟩ := ih hy
      exact ⟨x, List.mem_cons_of_mem _ hm, he⟩

theorem exists_mem_of_mapM {f : α → Except Fault β} {xs : List α} {ys : List β}
    (h : xs.mapM f = .ok ys) {x : α} (hx : x ∈ xs) : ∃ y ∈ ys, f x = .ok y := by
  rw [mapM_eq_ok_iff] at h
  induction h with
  | nil => cases hx
  | cons hy _ ih =>
    rcases List.mem_cons.mp hx with rfl | hx
    · exact ⟨_, List.mem_cons_self, hy⟩
    · obtain ⟨y, hm, he⟩ := ih hx
      exact ⟨y, List.mem_cons_of_mem _ hm, he⟩

/-- Two walks, one over the results of the other, end well exactly if one walk that does both does. -/
theorem mapM_mapM_eq_ok_iff {γ : Type} {f : α → Except Fault β} {g : β → Except Fault γ}
    {xs : List α} {zs : List γ} :
    (∃ ys, xs.mapM f = .ok ys ∧ ys.mapM g = .ok zs) ↔ xs.mapM (fun x => f x >>= g) = .ok zs := by
  induction xs generalizing zs with
  | nil => simp [pure_eq_ok]
  | cons x xs ih =>
    simp only [List.mapM_cons, bind_eq_ok_iff, pure_eq_ok, Except.ok.injEq]
    constructor
    · rintro ⟨ys, ⟨y, hy, rest, hrest, rfl⟩, h⟩
      simp only [List.mapM_cons, bind_eq_ok_iff, pure_eq_ok, Except.ok.injEq] at h
      obtain ⟨z, hz, more, hmore, rfl⟩ := h
      exact ⟨z, ⟨y, hy, hz⟩, more, ih.mp ⟨rest, hrest, hmore⟩, rfl⟩
    · rintro ⟨z, ⟨y, hy, hz⟩, more, hmore, rfl⟩
      obtain ⟨rest, hrest, hmore⟩ := ih.mpr hmore
      refine ⟨y :: rest, ⟨y, hy, rest, hrest, rfl⟩, ?_⟩
      rw [List.mapM_cons, hz, hmore]
      rfl

/-- A walk through a list keeps the places of its items. -/
theorem getElem?_of_mapM {f : α → Except Fault β} {xs : List α} {ys : List β}
    (h : xs.mapM f = .ok ys) {i : Nat} {x : α} (hx : xs[i]? = some x) :
    ∃ y, ys[i]? = some y ∧ f x = .ok y := by
  rw [mapM_eq_ok_iff] at h
  induction h generalizing i with
  | nil => cases hx
  | cons hfirst _ ih =>
    cases i with
    | zero =>
      cases hx
      exact ⟨_, rfl, hfirst⟩
    | succ i => exact ih hx

/-- What each result shares with its item, all results share with all items. -/
theorem map_eq_map_of_mapM {γ : Type} {f : α → Except Fault β} {xs : List α} {ys : List β}
    {g : β → γ} {k : α → γ} (h : xs.mapM f = .ok ys) (hg : ∀ x y, f x = .ok y → g y = k x) :
    ys.map g = xs.map k := by
  rw [mapM_eq_ok_iff] at h
  induction h with
  | nil => rfl
  | cons hx _ ih => rw [List.map_cons, List.map_cons, hg _ _ hx, ih]

/-- Two walks through a list that agree at every item give the same. -/
theorem eq_of_mapM {f g : α → Except Fault β} {xs : List α} {ys zs : List β}
    (hf : xs.mapM f = .ok ys) (hg : xs.mapM g = .ok zs)
    (h : ∀ x, ∀ y ∈ ys, ∀ z ∈ zs, f x = .ok y → g x = .ok z → y = z) : ys = zs := by
  rw [mapM_eq_ok_iff] at hf hg
  induction hf generalizing zs with
  | nil =>
    cases hg
    rfl
  | cons hx _ ih =>
    cases hg with
    | cons hx' hxs' =>
      rw [h _ _ List.mem_cons_self _ List.mem_cons_self hx hx',
        ih hxs' fun x y hy z hz => h x y (List.mem_cons_of_mem _ hy) z (List.mem_cons_of_mem _ hz)]

theorem exists_mapM_eq_ok_iff (f : α → Except Fault β) (xs : List α) :
    (∃ ys, xs.mapM f = .ok ys) ↔ ∀ x ∈ xs, ∃ y, f x = .ok y := by
  induction xs with
  | nil => simp [pure_eq_ok]
  | cons x xs ih =>
    rw [List.forall_mem_cons, ← ih, List.mapM_cons]
    constructor
    · rintro ⟨ys, h⟩
      obtain ⟨y, hy, h⟩ := bind_eq_ok_iff.mp h
      obtain ⟨zs, hzs, -⟩ := bind_eq_ok_iff.mp h
      exact ⟨⟨y, hy⟩, zs, hzs⟩
    · rintro ⟨⟨y, hy⟩, zs, hzs⟩
      exact ⟨y :: zs, by rw [hy, hzs]; rfl⟩

/-- A fault that ends a walk through a list is the fault of one of its items. -/
theorem exists_of_mapM_eq_error {f : α → Except Fault β} {xs : List α} {e : Fault}
    (h : xs.mapM f = .error e) : ∃ x ∈ xs, f x = .error e := by
  induction xs with
  | nil => cases h
  | cons x xs ih =>
    rw [List.mapM_cons] at h
    cases hx : f x with
    | error e' =>
      rw [hx, error_bind] at h
      cases h
      exact ⟨x, List.mem_cons_self, hx⟩
    | ok y =>
      rw [hx, ok_bind] at h
      cases hs : xs.mapM f with
      | error e' =>
        rw [hs, error_bind] at h
        cases h
        obtain ⟨z, hz, he⟩ := ih hs
        exact ⟨z, List.mem_cons_of_mem _ hz, he⟩
      | ok ys =>
        rw [hs] at h
        cases h

namespace Logged

@[simp] theorem outcome_bind (r : Logged ε α) (f : α → Logged ε β) :
    (r >>= f).outcome = r.outcome >>= fun a => (f a).outcome := by
  rcases r with ⟨log, e | a⟩ <;> rfl

@[simp] theorem outcome_pure (a : α) : (pure a : Logged ε α).outcome = .ok a := rfl

@[simp] theorem outcome_lift (r : Except Fault α) : (liftM r : Logged ε α).outcome = r := rfl

@[simp] theorem outcome_note (e : ε) : (note e).outcome = .ok () := rfl

@[simp] theorem outcome_ite (p : Prop) [Decidable p] (r s : Logged ε α) :
    (if p then r else s).outcome = if p then r.outcome else s.outcome := by
  split <;> rfl

@[simp] theorem log_pure (a : α) : (pure a : Logged ε α).log = [] := rfl

@[simp] theorem log_lift (r : Except Fault α) : (liftM r : Logged ε α).log = [] := rfl

/-- What holds of a computation that ends well holds of it after a first step that logs nothing. -/
theorem of_lift_bind (P : Logged ε β → Prop) {x : Except Fault α} {f : α → Logged ε β} {b : β}
    (h : (liftM x >>= f).outcome = .ok b)
    (hf : ∀ a, x = .ok a → (f a).outcome = .ok b → P (f a)) : P (liftM x >>= f) := by
  cases x with
  | error e => cases h
  | ok a => exact hf a rfl h

theorem outcome_mapM (f : α → Logged ε β) (xs : List α) :
    (xs.mapM f).outcome = xs.mapM fun a => (f a).outcome := by
  induction xs with
  | nil => simp [pure_eq_ok]
  | cons x xs ih =>
    rw [List.mapM_cons, List.mapM_cons, outcome_bind]
    simp only [outcome_bind, outcome_pure, ih, pure_eq_ok]

theorem outcome_gather_cons {f : α → Logged ε (List β)} {x : α} {xs : List α} {bs : List β}
    (h : (gather f (x :: xs)).outcome = .ok bs) :
    ∃ first more, (f x).outcome = .ok first ∧ (gather f xs).outcome = .ok more ∧
      bs = first ++ more := by
  rw [gather, outcome_bind] at h
  obtain ⟨first, hfirst, h⟩ := bind_eq_ok_iff.mp h
  rw [outcome_bind] at h
  obtain ⟨more, hmore, h⟩ := bind_eq_ok_iff.mp h
  exact ⟨first, more, hfirst, hmore, (Except.ok.inj h).symm⟩

/-- An entry of a log was made by the first part, or by the rest if that was reached. -/
theorem mem_log_bind {r : Logged ε α} {f : α → Logged ε β} {e : ε} :
    e ∈ (r >>= f).log ↔ e ∈ r.log ∨ ∃ a, r.outcome = .ok a ∧ e ∈ (f a).log := by
  rcases r with ⟨log, x | a⟩
  · simp [bind_def, bind]
  · simp [bind_def, bind]

@[simp] theorem mem_log_note {e e' : ε} : e ∈ (note e').log ↔ e = e' := List.mem_singleton

/-- What is logged on a walk through a list is logged by its items. -/
theorem exists_of_mem_log_mapM {f : α → Logged ε β} {xs : List α} {e : ε}
    (h : e ∈ (xs.mapM f).log) : ∃ x ∈ xs, e ∈ (f x).log := by
  induction xs with
  | nil => simp at h
  | cons x xs ih =>
    rw [List.mapM_cons, mem_log_bind] at h
    rcases h with h | ⟨a, -, h⟩
    · exact ⟨x, List.mem_cons_self, h⟩
    · rw [mem_log_bind] at h
      rcases h with h | ⟨_, -, h⟩
      · obtain ⟨y, hy, he⟩ := ih h
        exact ⟨y, List.mem_cons_of_mem _ hy, he⟩
      · simp at h

/-- A walk that comes to its end logs all that its items log. -/
theorem mem_log_mapM_of_ok {f : α → Logged ε β} {xs : List α} {ys : List β} {x : α} {e : ε}
    (h : (xs.mapM f).outcome = .ok ys) (hx : x ∈ xs) (he : e ∈ (f x).log) :
    e ∈ (xs.mapM f).log := by
  induction xs generalizing ys with
  | nil => cases hx
  | cons a xs ih =>
    rw [List.mapM_cons, outcome_bind] at h
    obtain ⟨b, hb, h⟩ := bind_eq_ok_iff.mp h
    rw [outcome_bind] at h
    obtain ⟨bs, hbs, -⟩ := bind_eq_ok_iff.mp h
    rw [List.mapM_cons, mem_log_bind]
    rcases List.mem_cons.mp hx with rfl | hx
    · exact .inl he
    · exact .inr ⟨b, hb, mem_log_bind.mpr (.inl (ih hbs hx))⟩

end Logged

end FlowConverter
