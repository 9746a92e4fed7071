import FlowConverter.Proofs.Pipeline

/-! What a run prints. The text of a document is made as a whole before it is validated, and it is
printed only after the last validation; a run that fails on the way has printed nothing. -/
namespace FlowConverter.CommandLine

/-- The text generated for the file at a path, stage by stage. -/
def Generated (ws : Workspace) (bound : Nat) (path doc : String) : Prop :=
  ∃ document record texts, (Cwl.Document.read ws bound path).outcome = .ok document ∧
    Wdl.Document.ofRecord document.toRecord = .ok record ∧
    documentTexts record = .ok texts ∧ doc = "\n".intercalate texts

/-- The validator accepts the text the first `n` times it is asked. -/
def Accepts (validator : Validator) (doc : String) (n : Nat) : Prop :=
  ∀ k < n, ∃ tree, validator k doc = .ok tree

variable {validator : Validator} {doc : String}

theorem Accepts.succ {n : Nat} {tree : String} (h : Accepts validator doc n)
    (hn : validator n doc = .ok tree) : Accepts validator doc (n + 1) := by
  intro k hk
  rcases Nat.lt_succ_iff_lt_or_eq.mp hk with hk | rfl
  · exact h k hk
  · exact ⟨tree, hn⟩

variable {ws : Workspace} {bound : Nat} {words : List String}

theorem convert_eq_ok_iff {path : String} :
    (convert ws bound path).outcome = .ok doc ↔ Generated ws bound path doc := by
  constructor
  · intro h
    rw [convert] at h
    split at h
    · cases h
    · simp only [Logged.outcome_bind, Logged.outcome_lift, Logged.outcome_pure] at h
      obtain ⟨document, hread, h⟩ := bind_eq_ok_iff.mp h
      obtain ⟨record, hrecord, h⟩ := bind_eq_ok_iff.mp h
      obtain ⟨texts, htexts, h⟩ := bind_eq_ok_iff.mp h
      exact ⟨document, record, texts, hread, hrecord, htexts, (Except.ok.inj h).symm⟩
  · rintro ⟨document, record, texts, hread, hrecord, htexts, rfl⟩
    rw [convert_of_read hread, hrecord, ok_bind, htexts]
    rfl

theorem Generated.unique {path doc' : String} (h : Generated ws bound path doc)
    (h' : Generated ws bound path doc') : doc = doc' := by
  rw [← convert_eq_ok_iff] at h h'
  exact Except.ok.inj (h.symm.trans h')

namespace Finishes

variable {out : String} {validated : List String}

end Finishes

end FlowConverter.CommandLine
