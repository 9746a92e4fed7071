import FlowConverter.Proofs.Outcome

/-! Readings under a bound. A bound can stop a reading early, and it does nothing else: whatever was
not stopped is what any larger bound gives. A reading that is stopped by no large bound settles;
two readings have the same outcome if they settle to the same report, or if every bound stops
both. -/
namespace FlowConverter

variable {ε α β : Type}

theorem bind_eq_error_iff {x : Except Fault α} {f : α → Except Fault β} {e : Fault} :
    x >>= f = .error e ↔ x = .error e ∨ ∃ a, x = .ok a ∧ f a = .error e := by
  cases x with
  | error e' => simp
  | ok a => simp

namespace Logged

/-- The bound stopped the reading. -/
def Exhausted (r : Logged ε α) : Prop := r.outcome = .error .nestingTooDeep

/-- The reading is the other one, unless the bound stopped it. -/
def Approximates (r s : Logged ε α) : Prop := r.Exhausted ∨ r = s

theorem bind_of_ok {r : Logged ε α} {a : α} (h : r.outcome = .ok a) (f : α → Logged ε β) :
    r >>= f = ⟨r.log ++ (f a).log, (f a).outcome⟩ := by
  rw [bind_def, bind, h]

theorem bind_of_error {r : Logged ε α} {e : Fault} (h : r.outcome = .error e)
    (f : α → Logged ε β) : r >>= f = ⟨r.log, .error e⟩ := by
  rw [bind_def, bind, h]

@[simp] theorem lift_ok (a : α) : (liftM (Except.ok a : Except Fault α) : Logged ε α) = pure a :=
  rfl

@[simp] theorem lift_error_bind (e : Fault) (f : α → Logged ε β) :
    (liftM (Except.error e : Except Fault α) >>= f) = ⟨[], .error e⟩ := rfl

theorem lift_bind (x : Except Fault α) (f : α → Except Fault β) :
    (liftM (x >>= f) : Logged ε β) = liftM x >>= fun a => liftM (f a) := by
  cases x <;> rfl

theorem exhausted_bind_iff {r : Logged ε α} {f : α → Logged ε β} :
    (r >>= f).Exhausted ↔ r.Exhausted ∨ ∃ a, r.outcome = .ok a ∧ (f a).Exhausted := by
  rw [Exhausted, outcome_bind, bind_eq_error_iff]
  rfl

theorem mapM_eq_gather (f : α → Logged ε β) (xs : List α) :
    xs.mapM f = gather (fun x => do pure [← f x]) xs := by
  induction xs with
  | nil => rfl
  | cons x xs ih => simp [List.mapM_cons, gather, ih]

theorem gather_append (f : α → Logged ε (List β)) (xs ys : List α) :
    gather f (xs ++ ys) = (do
      let bs ← gather f xs
      let cs ← gather f ys
      pure (bs ++ cs)) := by
  induction xs with
  | nil => simp [gather]
  | cons x xs ih =>
    simp only [List.cons_append, gather, ih, bind_assoc, pure_bind, List.append_assoc]

theorem gather_congr {f g : α → Logged ε (List β)} {xs : List α} (h : ∀ x ∈ xs, f x = g x) :
    gather f xs = gather g xs := by
  induction xs with
  | nil => rfl
  | cons x xs ih =>
    rw [gather, gather, h x List.mem_cons_self,
      ih fun y hy => h y (List.mem_cons_of_mem _ hy)]

namespace Approximates

theorem refl (r : Logged ε α) : r.Approximates r := .inr rfl

theorem trans {r s t : Logged ε α} (hrs : r.Approximates s) (hst : s.Approximates t) :
    r.Approximates t := by
  rcases hrs with hr | rfl
  · exact .inl hr
  · exact hst

theorem bind {r s : Logged ε α} {f g : α → Logged ε β} (h : r.Approximates s)
    (hfg : ∀ a, (f a).Approximates (g a)) : (r >>= f).Approximates (s >>= g) := by
  rcases h with hr | rfl
  · exact .inl (exhausted_bind_iff.mpr (.inl hr))
  · cases h : r.outcome with
    | error e => exact .inr ((bind_of_error h f).trans (bind_of_error h g).symm)
    | ok a =>
      rcases hfg a with ha | ha
      · exact .inl (exhausted_bind_iff.mpr (.inr ⟨a, h, ha⟩))
      · exact .inr (by rw [bind_of_ok h, bind_of_ok h, ha])

end Approximates

/-- A larger bound changes a reading only where the smaller one stopped it. -/
def Ascending (x : Nat → Logged ε α) : Prop := ∀ n, (x n).Approximates (x (n + 1))

/-- For all large bounds the reading is `r`, and no bound has stopped it. -/
def SettlesTo (x : Nat → Logged ε α) (r : Logged ε α) : Prop :=
  ¬ r.Exhausted ∧ ∃ least, ∀ n, least ≤ n → x n = r

def Settles (x : Nat → Logged ε α) : Prop := ∃ r, SettlesTo x r

/-- The readings settle to one report, or neither is ever brought to an end. -/
def SameOutcome (x y : Nat → Logged ε α) : Prop :=
  (∃ r, SettlesTo x r ∧ SettlesTo y r) ∨ (∀ n, (x n).Exhausted) ∧ ∀ n, (y n).Exhausted

theorem SettlesTo.unique {x : Nat → Logged ε α} {r s : Logged ε α} (hr : SettlesTo x r)
    (hs : SettlesTo x s) : r = s := by
  obtain ⟨-, least, hle⟩ := hr
  obtain ⟨-, least', hle'⟩ := hs
  rw [← hle (max least least') (by omega), ← hle' (max least least') (by omega)]

theorem SameOutcome.settlesTo {x y : Nat → Logged ε α} {r : Logged ε α} (h : SameOutcome x y)
    (hy : SettlesTo y r) : SettlesTo x r := by
  rcases h with ⟨s, hx, hs⟩ | ⟨-, hy'⟩
  · rw [hy.unique hs]
    exact hx
  · obtain ⟨hr, least, hle⟩ := hy
    exact absurd (hle least (Nat.le_refl _) ▸ hy' least) hr

namespace Ascending

variable {x y : Nat → Logged ε α}

theorem approximates (h : Ascending x) {m n : Nat} (hmn : m ≤ n) :
    (x m).Approximates (x n) := by
  induction hmn with
  | refl => exact .refl _
  | step _ ih => exact ih.trans (h _)

/-- A reading that some bound lets pass is the same under every bound, or stopped. -/
theorem exhausted_or_eq (h : Ascending x) {m : Nat} (hm : ¬ (x m).Exhausted) (n : Nat) :
    (x n).Exhausted ∨ x n = x m := by
  rcases Nat.le_total n m with hnm | hmn
  · exact h.approximates hnm
  · rcases h.approximates hmn with he | he
    · exact absurd he hm
    · exact .inr he.symm

theorem settlesTo (h : Ascending x) {m : Nat} (hm : ¬ (x m).Exhausted) : SettlesTo x (x m) := by
  refine ⟨hm, m, ?_⟩
  intro n hmn
  rcases h.approximates hmn with he | he
  · exact absurd he hm
  · exact he.symm

/-- Readings that keep pace with each other have the same outcome. -/
theorem sameOutcome (hx : Ascending x) (hxy : ∀ n, (x n).Approximates (y n))
    (hyx : ∀ n, (y n).Approximates (x (n + 1))) : SameOutcome x y := by
  by_cases h : ∀ n, (x n).Exhausted
  · refine .inr ⟨h, ?_⟩
    intro n
    rcases hyx n with hy | hy
    · exact hy
    · rw [hy]
      exact h (n + 1)
  · obtain ⟨m, hm⟩ := not_forall.mp h
    obtain ⟨hr, least, hle⟩ := hx.settlesTo hm
    refine .inl ⟨x m, ⟨hr, least, hle⟩, hr, least, ?_⟩
    intro n hn
    rcases hxy n with he | he
    · rw [hle n hn] at he
      exact absurd he hr
    · rw [← he, hle n hn]

end Ascending

namespace Settles

variable {x : Nat → Logged ε α}

theorem const {r : Logged ε α} (h : ¬ r.Exhausted) : Settles fun _ => r :=
  ⟨r, h, 0, fun _ _ => rfl⟩

/-- Where a reading starts to count makes no difference. -/
theorem of_succ (h : Settles fun n => x (n + 1)) : Settles x := by
  obtain ⟨r, hr, least, hle⟩ := h
  refine ⟨r, hr, least + 1, ?_⟩
  intro n hn
  obtain ⟨m, rfl⟩ : ∃ m, n = m + 1 := ⟨n - 1, by omega⟩
  exact hle m (by omega)

theorem bind {f : Nat → α → Logged ε β} (hx : Settles x)
    (hf : ∀ n a, (x n).outcome = .ok a → Settles fun n => f n a) :
    Settles fun n => x n >>= f n := by
  obtain ⟨r, hr, least, hle⟩ := hx
  cases h : r.outcome with
  | error e =>
    refine ⟨⟨r.log, .error e⟩, ?_, least, ?_⟩
    · rintro ⟨⟩
      exact hr h
    · intro n hn
      simp only [hle n hn, bind_of_error h]
  | ok a =>
    have hleast : (x least).outcome = .ok a := by rw [hle least (Nat.le_refl _), h]
    obtain ⟨s, hs, least', hle'⟩ := hf least a hleast
    refine ⟨⟨r.log ++ s.log, s.outcome⟩, hs, max least least', ?_⟩
    intro n hn
    simp only [hle n (by omega), bind_of_ok h, hle' n (by omega)]

end Settles

end Logged

end FlowConverter
