import FlowConverter.Cwl.Document
import FlowConverter.Proofs.Bounds

/-! Readings as scripts. All that a reading needs from the files it asks for by path, and it goes on
with whatever comes back. A script is a reading with its questions left open: it does not know
the files, nor the directory it runs in, nor the bound. What holds of every script then holds of
every reader that is shown to follow one. -/
namespace FlowConverter.Cwl

variable {α β : Type}

/-- What a file is read as: a document that a step runs, or requirements that an entry imports. -/
inductive Role where
  | document
  | requirements

/-- What comes back from a file: the tools of a document, or the requirements. -/
abbrev Role.Reply : Role → Type
  | document => Option (List Tool)
  | requirements => List Requirement

/-- A path to look up, with the directory that is searched if the current one has no such file. -/
structure Request where
  role : Role
  sourceDir : Value
  path : String

/-- A reading that is over, or one that asks after some warnings and goes on with the reply. -/
inductive Script (α : Type) : Type where
  | done (r : Report α)
  | ask (log : List Warning) (q : Request) (next : q.role.Reply → Script α)

namespace Script

def after (log : List Warning) : Script α → Script α
  | done r => done ⟨log ++ r.log, r.outcome⟩
  | ask log' q next => ask (log ++ log') q next

def bind (s : Script α) (f : α → Script β) : Script β :=
  match s with
  | done r =>
    match r.outcome with
    | .error e => done ⟨r.log, .error e⟩
    | .ok a => (f a).after r.log
  | ask log q next => ask log q fun a => (next a).bind f

instance : Monad Script where
  pure a := done (pure a)
  bind := bind

instance : MonadLift (Logged Warning) Script := ⟨done⟩

def request (q : Request) : Script q.role.Reply := ask [] q pure

def gather (f : α → Script (List β)) : List α → Script (List β)
  | [] => pure []
  | a :: rest => do
    let bs ← f a
    let more ← gather f rest
    pure (bs ++ more)

/-- The reading that gets its replies from `answer`. -/
def run (answer : (q : Request) → Report q.role.Reply) : Script α → Report α
  | done r => r
  | ask log q next => do
    (⟨log, .ok ()⟩ : Report Unit)
    let a ← answer q
    (next a).run answer

/-- The script comes to ask `q`: every question before it has a reply. -/
inductive Asks (replies : (q : Request) → q.role.Reply → Prop) : Script α → Request → Prop
  | now {log q next} : Asks replies (ask log q next) q
  | later {log q next a q'} : replies q a → Asks replies (next a) q' →
      Asks replies (ask log q next) q'

/-- No bound is named in the script: it never stops for its nesting on its own account. -/
def Unbounded : Script α → Prop
  | done r => ¬ r.Exhausted
  | ask _ _ next => ∀ a, (next a).Unbounded

section Run

variable {answer : (q : Request) → Report q.role.Reply}

theorem run_after (log : List Warning) (s : Script α) :
    (s.after log).run answer = (⟨log, .ok ()⟩ : Report Unit) >>= fun _ => s.run answer := by
  cases s with
  | done r => rfl
  | ask log' q next =>
    simp only [after, run, Logged.bind_def, Logged.bind, List.append_assoc]

@[simp] theorem run_pure (a : α) : (pure a : Script α).run answer = pure a := rfl

@[simp] theorem run_lift (r : Report α) : (liftM r : Script α).run answer = r := rfl

@[simp] theorem run_lift_outcome (r : Except Fault α) :
    (liftM r : Script α).run answer = (liftM r : Report α) := rfl

@[simp] theorem run_bind (s : Script α) (f : α → Script β) :
    (s >>= f).run answer = s.run answer >>= fun a => (f a).run answer := by
  induction s with
  | done r =>
    rcases r with ⟨log, e | a⟩
    · rfl
    · exact run_after log (f a)
  | ask log q next ih =>
    have h : (ask log q next >>= f) = ask log q fun a => next a >>= f := rfl
    simp only [h, run, ih, bind_assoc]

@[simp] theorem run_request (q : Request) : (request q).run answer = answer q :=
  calc (request q).run answer
    _ = (pure () : Report Unit) >>= fun _ => answer q >>= pure := rfl
    _ = answer q := by rw [pure_bind, bind_pure]

@[simp] theorem run_ite (p : Prop) [Decidable p] (s t : Script α) :
    (if p then s else t).run answer = if p then s.run answer else t.run answer := by
  split <;> rfl

@[simp] theorem run_gather (f : α → Script (List β)) (xs : List α) :
    (gather f xs).run answer = Logged.gather (fun x => (f x).run answer) xs := by
  induction xs with
  | nil => rfl
  | cons x xs ih => simp only [gather, run_bind, run_pure, ih, Logged.gather]

theorem exhausted_run_ask_iff {log : List Warning} {q : Request}
    {next : q.role.Reply → Script α} :
    ((ask log q next).run answer).Exhausted ↔ (answer q).Exhausted ∨
      ∃ a, (answer q).outcome = .ok a ∧ ((next a).run answer).Exhausted := by
  rw [run, Logged.exhausted_bind_iff, Logged.exhausted_bind_iff]
  constructor
  · rintro (h | ⟨_, _, h⟩)
    · cases h
    · exact h
  · exact fun h => .inr ⟨(), rfl, h⟩

end Run

section Unbounded

variable {s : Script α}

theorem Unbounded.after (h : s.Unbounded) (log : List Warning) : (s.after log).Unbounded := by
  cases s with
  | done r => exact h
  | ask log' q next => exact h

theorem Unbounded.bind {f : α → Script β} (hs : s.Unbounded) (hf : ∀ a, (f a).Unbounded) :
    (s >>= f).Unbounded := by
  induction s with
  | done r =>
    rcases r with ⟨log, e | a⟩
    · intro h
      cases h
      exact hs rfl
    · exact (hf a).after log
  | ask log q next ih => exact fun a => ih a (hs a)

theorem Unbounded.pure (a : α) : (pure a : Script α).Unbounded := by
  intro h
  cases h

theorem Unbounded.request (q : Request) : (request q).Unbounded := fun a => .pure a

theorem Unbounded.gather {f : α → Script (List β)} (hf : ∀ x, (f x).Unbounded) (xs : List α) :
    (gather f xs).Unbounded := by
  induction xs with
  | nil => exact .pure []
  | cons x xs ih => exact (hf x).bind fun bs => ih.bind fun more => .pure (bs ++ more)

end Unbounded

section Asks

variable {replies : (q : Request) → q.role.Reply → Prop}

/-- What is done with the result in the end asks for nothing. -/
theorem asks_map_iff {s : Script α} {f : α → β} {q : Request} :
    Asks replies (s >>= fun a => pure (f a)) q ↔ Asks replies s q := by
  induction s with
  | done r =>
    rcases r with ⟨log, e | a⟩
    · exact ⟨nofun, nofun⟩
    · exact ⟨nofun, nofun⟩
  | ask log q' next ih =>
    constructor
    · intro h
      cases h with
      | now => exact .now
      | later ha h => exact .later ha ((ih _).mp h)
    · intro h
      cases h with
      | now => exact .now
      | later ha h => exact .later ha ((ih _).mpr h)

end Asks

/-- Better answers make a better reading. -/
theorem run_approximates {answer answer' : (q : Request) → Report q.role.Reply}
    (h : ∀ q, (answer q).Approximates (answer' q)) (s : Script α) :
    (s.run answer).Approximates (s.run answer') := by
  induction s with
  | done r => exact .refl r
  | ask log q next ih => exact (Logged.Approximates.refl _).bind fun _ => (h q).bind ih

/-- A reply that comes under some bound. -/
def Replies (answers : Nat → (q : Request) → Report q.role.Reply) (q : Request)
    (a : q.role.Reply) : Prop :=
  ∃ n, (answers n q).outcome = .ok a

section Answers

variable {answers : Nat → (q : Request) → Report q.role.Reply} {s : Script α}

/-- A script depends on the answers to the questions it comes to, and on no others. -/
theorem run_congr {answer : (q : Request) → Report q.role.Reply} {n : Nat}
    (h : ∀ q, Asks (Replies answers) s q → answers n q = answer q) :
    s.run (answers n) = s.run answer := by
  induction s with
  | done r => rfl
  | ask log q next ih =>
    rw [run, run, ← h q .now]
    congr 1
    funext _
    cases ha : (answers n q).outcome with
    | error e => rw [Logged.bind_of_error ha, Logged.bind_of_error ha]
    | ok a =>
      rw [Logged.bind_of_ok ha, Logged.bind_of_ok ha,
        ih a fun q' hq' => h q' (.later ⟨n, ha⟩ hq')]

/-- A script settles if all that it asks for does. -/
theorem settles_run (hs : s.Unbounded)
    (h : ∀ q, Asks (Replies answers) s q → Logged.Settles fun n => answers n q) :
    Logged.Settles fun n => s.run (answers n) := by
  induction s with
  | done r => exact .const hs
  | ask log q next ih =>
    refine (Logged.Settles.const ?_).bind fun _ _ _ => (h q .now).bind fun n a ha => ?_
    · intro he
      cases he
    · exact ih a (hs a) fun q' hq' => h q' (.later ⟨n, ha⟩ hq')

/-- A script is stopped under a bound that stops one of the answers it comes to ask for. -/
theorem exhausted_run (hasc : ∀ q, Logged.Ascending fun n => answers n q) {q : Request}
    (hq : Asks (Replies answers) s q) {n : Nat} (h : (answers n q).Exhausted) :
    (s.run (answers n)).Exhausted := by
  induction hq with
  | now => exact exhausted_run_ask_iff.mpr (.inl h)
  | @later log q' next a q ha _ ih =>
    obtain ⟨m, hm⟩ := ha
    rw [exhausted_run_ask_iff]
    -- The earlier reply came under another bound; under this one it is the same, or is stopped too.
    have hne : ¬ (answers m q').Exhausted := by simp [Logged.Exhausted, hm]
    rcases (hasc q').exhausted_or_eq hne n with he | he
    · exact .inl he
    · exact .inr ⟨a, by rw [he, hm], ih h⟩

end Answers

end Script

end FlowConverter.Cwl
