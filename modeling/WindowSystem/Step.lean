/-
# Steps

A step takes a state, gives an answer and the next state, and writes entries into a journal.
What the parts of the window system do is built from steps: the journal holds, in order, all that
others can see of it. The laws at the end let a step be read as its outcome.
-/

namespace WindowSystem

/-- What a step comes to: its answer, the state after it, and what it wrote, oldest first. -/
structure Outcome (ω σ α : Type) where
  answer : α
  state : σ
  journal : List ω

/-- An action on a state of type `σ` that answers with an `α` and writes entries of type `ω`. -/
def Step (ω σ α : Type) : Type := σ → Outcome ω σ α

namespace Step

variable {ω υ σ τ α β : Type}

/-- The outcome of a step from a given state. -/
def run (s : Step ω σ α) (state : σ) : Outcome ω σ α := s state

/-- The step that only answers. -/
def answer (a : α) : Step ω σ α := fun state => ⟨a, state, []⟩

/-- One step after another; the journal of the second follows that of the first. -/
def andThen (s : Step ω σ α) (f : α → Step ω σ β) : Step ω σ β := fun state =>
  let first := s.run state
  let second := (f first.answer).run first.state
  ⟨second.answer, second.state, first.journal ++ second.journal⟩

instance : Monad (Step ω σ) where
  pure := answer
  bind := andThen

/-! ## Building steps -/

/-- The state. -/
def get : Step ω σ σ := fun state => ⟨state, state, []⟩

/-- The value of a function at the state. -/
def gets (f : σ → α) : Step ω σ α := fun state => ⟨f state, state, []⟩

/-- Changes the state. -/
def modify (f : σ → σ) : Step ω σ Unit := fun state => ⟨(), f state, []⟩

/-- Writes one entry. -/
def write (entry : ω) : Step ω σ Unit := fun state => ⟨(), state, [entry]⟩

/-- A step on a part of the state. -/
def within (part : σ → τ) (put : τ → σ → σ) (s : Step ω τ α) : Step ω σ α := fun state =>
  let inner := s.run (part state)
  ⟨inner.answer, put inner.state state, inner.journal⟩

/-- A step whose entries are mapped. -/
def mapJournal (f : ω → υ) (s : Step ω σ α) : Step υ σ α := fun state =>
  let inner := s.run state
  ⟨inner.answer, inner.state, inner.journal.map f⟩

/-- Does a step for every item of a list, from the first to the last. -/
def forEach (f : α → Step ω σ Unit) : List α → Step ω σ Unit
  | [] => answer ()
  | a :: rest => andThen (f a) fun _ => forEach f rest

/-! ## Laws -/

@[simp]
theorem run_pure (a : α) (state : σ) : (pure a : Step ω σ α).run state = ⟨a, state, []⟩ := rfl

@[simp]
theorem run_bind (s : Step ω σ α) (f : α → Step ω σ β) (state : σ) :
    (s >>= f).run state =
      ⟨((f (s.run state).answer).run (s.run state).state).answer,
       ((f (s.run state).answer).run (s.run state).state).state,
       (s.run state).journal ++ ((f (s.run state).answer).run (s.run state).state).journal⟩ := rfl

@[simp]
theorem run_get (state : σ) : (get : Step ω σ σ).run state = ⟨state, state, []⟩ := rfl

@[simp]
theorem run_gets (f : σ → α) (state : σ) :
    (gets f : Step ω σ α).run state = ⟨f state, state, []⟩ := rfl

@[simp]
theorem run_modify (f : σ → σ) (state : σ) :
    (modify f : Step ω σ Unit).run state = ⟨(), f state, []⟩ := rfl

@[simp]
theorem run_write (entry : ω) (state : σ) :
    (write entry : Step ω σ Unit).run state = ⟨(), state, [entry]⟩ := rfl

@[simp]
theorem run_within (part : σ → τ) (put : τ → σ → σ) (s : Step ω τ α) (state : σ) :
    (within part put s).run state =
      ⟨(s.run (part state)).answer, put (s.run (part state)).state state,
       (s.run (part state)).journal⟩ := rfl

@[simp]
theorem run_mapJournal (f : ω → υ) (s : Step ω σ α) (state : σ) :
    (s.mapJournal f).run state =
      ⟨(s.run state).answer, (s.run state).state, (s.run state).journal.map f⟩ := rfl

@[simp]
theorem forEach_nil (f : α → Step ω σ Unit) : forEach f [] = pure () := rfl

@[simp]
theorem forEach_cons (f : α → Step ω σ Unit) (a : α) (rest : List α) :
    forEach f (a :: rest) = f a >>= fun _ => forEach f rest := rfl

/-- A step is determined by its outcomes. -/
theorem ext {s t : Step ω σ α} (h : ∀ state, s.run state = t.run state) : s = t :=
  funext h

instance : LawfulMonad (Step ω σ) :=
  LawfulMonad.mk' (Step ω σ)
    (fun s => ext fun state => by simp [Functor.map, run, andThen, answer])
    (fun a f => ext fun state => by simp)
    (fun s f g => ext fun state => by simp)

end Step

end WindowSystem
