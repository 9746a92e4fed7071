import FlowConverter.Text.Edit

/-! Deletion from left to right. Words, empty runtime sections, references and the matches of patterns
are all deleted by one scan, which differs in what it measures. Main statement: a scan that finds
exactly the texts with a property leaves them out one after the other and keeps all else, and
there is one way to do so if no such text goes on as another. -/
namespace FlowConverter.Text

theorem deleteMatches_sublist (length? : Option Char → List Char → Option Nat)
    (before : Option Char) (skip : Nat) (s : List Char) :
    (deleteMatches length? before skip s).Sublist s := by
  induction s generalizing before skip with
  | nil => simp [deleteMatches]
  | cons c rest ih =>
    cases skip with
    | succ skip =>
      rw [deleteMatches]
      exact (ih (some c) skip).cons c
    | zero =>
      rw [deleteMatches]
      split
      · exact (ih (some c) _).cons c
      · exact (ih (some c) 0).cons_cons c

/-! ### Matches that do not depend on what is before them -/

variable {length? : List Char → Option Nat}

theorem deleteAll_sublist (length? : List Char → Option Nat) (s : List Char) :
    (deleteAll length? s).Sublist s :=
  deleteMatches_sublist _ none 0 s

/-- Skipping is dropping. -/
theorem deleteMatches_eq_deleteAll (before : Option Char) (skip : Nat) (s : List Char) :
    deleteMatches (fun _ => length?) before skip s = deleteAll length? (s.drop skip) := by
  induction s generalizing before skip with
  | nil => simp [deleteAll, deleteMatches]
  | cons c rest ih =>
    cases skip with
    | succ skip => exact ih (some c) skip
    | zero => rfl

theorem deleteAll_cons_of_none {c : Char} {rest : List Char} (h : length? (c :: rest) = none) :
    deleteAll length? (c :: rest) = c :: deleteAll length? rest := by
  rw [deleteAll, deleteMatches, h]
  simp only [deleteMatches_eq_deleteAll, List.drop_zero]

/-- A match is gone over as a whole. -/
theorem deleteAll_append {found rest : List Char} (hfound : found ≠ [])
    (h : length? (found ++ rest) = some found.length) :
    deleteAll length? (found ++ rest) = deleteAll length? rest := by
  obtain ⟨c, more, rfl⟩ := List.exists_cons_of_ne_nil hfound
  rw [List.cons_append] at h ⊢
  rw [deleteAll, deleteMatches, h]
  simp only [deleteMatches_eq_deleteAll, List.length_cons, Nat.add_sub_cancel, List.drop_left]

/-- Characters that no match holds are all kept. -/
theorem filter_deleteAll {q : Char → Bool}
    (hmatch : ∀ {s n}, length? s = some n → 0 < n ∧ ∀ c ∈ s.take n, q c = false) (s : List Char) :
    (deleteAll length? s).filter q = s.filter q := by
  have hskip (before : Option Char) (skip : Nat) (hq : ∀ c ∈ s.take skip, q c = false) :
      (deleteMatches (fun _ => length?) before skip s).filter q = s.filter q := by
    induction s generalizing before skip with
    | nil => rw [deleteMatches]
    | cons c rest ih =>
      cases skip with
      | succ skip =>
        rw [List.take_succ_cons, List.forall_mem_cons] at hq
        rw [deleteMatches, ih _ _ hq.2, List.filter_cons, hq.1, if_neg Bool.false_ne_true]
      | zero =>
        rw [deleteMatches]
        split
        next n hn =>
          obtain ⟨hpos, hq⟩ := hmatch hn
          obtain ⟨n, rfl⟩ := Nat.exists_eq_add_of_lt hpos
          rw [Nat.zero_add, List.take_succ_cons, List.forall_mem_cons] at hq
          rw [Nat.zero_add, Nat.add_sub_cancel, ih _ _ hq.2, List.filter_cons, hq.1,
            if_neg Bool.false_ne_true]
        next => rw [List.filter_cons, List.filter_cons, ih _ 0 (by simp)]
  exact hskip none 0 (by simp)

/-- The scan finds texts with the property `P` and no others, and passes none of them over. -/
structure Finds (P : List Char → Prop) (length? : List Char → Option Nat) : Prop where
  sound {s : List Char} {n : Nat} (h : length? s = some n) :
    ∃ found rest, P found ∧ s = found ++ rest ∧ n = found.length
  complete {found : List Char} (hfound : P found) (rest : List Char) : length? (found ++ rest) ≠ none
  ne_nil {found : List Char} (hfound : P found) : found ≠ []

/-- Going through a text from its start, every text with the property is left out and all else is
kept. -/
inductive LeftOut (P : List Char → Prop) : List Char → List Char → Prop where
  | nil : LeftOut P [] []
  | keep {c : Char} {rest kept : List Char} (hc : ∀ found, P found → ¬ found <+: c :: rest)
    (hrest : LeftOut P rest kept) : LeftOut P (c :: rest) (c :: kept)
  | delete {found rest kept : List Char} (hfound : P found) (hrest : LeftOut P rest kept) :
    LeftOut P (found ++ rest) kept

variable {P : List Char → Prop}

theorem leftOut_deleteAll (hfinds : Finds P length?) (s : List Char) :
    LeftOut P s (deleteAll length? s) := by
  induction hlength : s.length using Nat.strongRecOn generalizing s with
  | ind length ih =>
    cases hs : length? s with
    | some n =>
      obtain ⟨found, rest, hfound, rfl, rfl⟩ := hfinds.sound hs
      have hpos := List.length_pos_iff.mpr (hfinds.ne_nil hfound)
      rw [List.length_append] at hlength
      rw [deleteAll_append (hfinds.ne_nil hfound) hs]
      exact .delete hfound (ih rest.length (by omega) rest rfl)
    | none =>
      cases s with
      | nil => exact .nil
      | cons c rest =>
        rw [deleteAll_cons_of_none hs]
        refine .keep ?_ (ih rest.length (by simp [← hlength]) rest rfl)
        rintro found hfound ⟨more, hmore⟩
        exact hfinds.complete hfound more (hmore ▸ hs)

namespace LeftOut

variable {s kept : List Char}

theorem eq_deleteAll (h : LeftOut P s kept) (hfinds : Finds P length?)
    (hexact : ∀ {found}, P found → ∀ rest, length? (found ++ rest) = some found.length) :
    kept = deleteAll length? s := by
  induction h with
  | nil => rfl
  | @keep c rest kept hc _ ih =>
    have hnone : length? (c :: rest) = none := by
      cases hs : length? (c :: rest) with
      | none => rfl
      | some n =>
        obtain ⟨found, more, hfound, hmore, -⟩ := hfinds.sound hs
        exact absurd ⟨more, hmore.symm⟩ (hc found hfound)
    rw [deleteAll_cons_of_none hnone, ih]
  | @delete found rest kept hfound _ ih =>
    rw [deleteAll_append (hfinds.ne_nil hfound) (hexact hfound rest), ih]

theorem length_le (h : LeftOut P s kept) : kept.length ≤ s.length := by
  induction h with
  | nil => exact Nat.le_refl 0
  | keep _ _ ih => exact Nat.succ_le_succ ih
  | delete _ _ ih =>
    rw [List.length_append]
    omega

/-- A text keeps everything exactly if nothing with the property is in it. -/
theorem eq_iff (h : LeftOut P s kept) (hne : ∀ found, P found → found ≠ []) :
    kept = s ↔ ∀ found, P found → ¬ found <:+: s := by
  induction h with
  | nil => simpa using fun found hfound hnil => hne found hfound hnil
  | @keep c rest kept hc _ ih =>
    rw [List.cons_inj_right, ih]
    refine forall₂_congr fun found hfound => ?_
    rw [List.infix_cons_iff, not_or]
    exact (and_iff_right (hc found hfound)).symm
  | @delete found rest kept hfound hrest _ =>
    have hle := hrest.length_le
    have hpos := List.length_pos_iff.mpr (hne found hfound)
    refine iff_of_false ?_ fun hnone => hnone found hfound (List.prefix_append found rest).isInfix
    rintro rfl
    rw [List.length_append] at hle
    omega

end LeftOut

end FlowConverter.Text
