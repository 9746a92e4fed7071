import FlowConverter.Fault

/-! An outcome together with a log of what happened on the way. The log stays when a fault ends the
work. -/
namespace FlowConverter

structure Logged (ε α : Type) where
  log : List ε
  outcome : Except Fault α

namespace Logged

variable {ε α β γ : Type}

def ofOutcome (r : Except Fault α) : Logged ε α := ⟨[], r⟩

/-- Adds one entry to the log. -/
def note (e : ε) : Logged ε Unit := ⟨[e], .ok ()⟩

def fail (f : Fault) : Logged ε α := ⟨[], .error f⟩

/-- Goes on with the value, if there is one. -/
def bind (r : Logged ε α) (f : α → Logged ε β) : Logged ε β :=
  match r.outcome with
  | .error e => ⟨r.log, .error e⟩
  | .ok a => ⟨r.log ++ (f a).log, (f a).outcome⟩

instance : Monad (Logged ε) where
  pure a := ⟨[], .ok a⟩
  bind := bind

instance : MonadLift (Except Fault) (Logged ε) := ⟨ofOutcome⟩

theorem bind_def (r : Logged ε α) (f : α → Logged ε β) : r >>= f = r.bind f := rfl

theorem pure_def (a : α) : (pure a : Logged ε α) = ⟨[], .ok a⟩ := rfl

private theorem bind_bind (r : Logged ε α) (f : α → Logged ε β) (g : β → Logged ε γ) :
    (r.bind f).bind g = r.bind fun a => (f a).bind g := by
  rcases r with ⟨log, e | a⟩
  · rfl
  · simp only [bind]
    cases (f a).outcome <;> simp

instance : LawfulMonad (Logged ε) :=
  LawfulMonad.mk' (Logged ε)
    (by
      intro α r
      rcases r with ⟨log, e | a⟩ <;> simp [Functor.map, bind])
    (by
      intro α β a f
      simp [bind_def, pure_def, bind])
    (by
      intro α β γ r f g
      exact bind_bind r f g)

/-- The results for all items, joined in order. -/
def gather (f : α → Logged ε (List β)) : List α → Logged ε (List β)
  | [] => pure []
  | a :: rest => do
    let bs ← f a
    let more ← gather f rest
    pure (bs ++ more)

end Logged

end FlowConverter
