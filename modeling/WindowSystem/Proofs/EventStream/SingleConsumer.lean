/-
# One consumer at a time

The protocol between an event stream and its consumers, for any window manager and any number of
consumers that come, look, look again, get their answers and leave in any order
(`one_consumer_at_a_time`). At most one of them waits, and the stream is marked exactly while one
does; a new consumer is refused meanwhile and otherwise admitted; and whatever the window manager
yields comes out at the consumer who obtained it, in the same order and unchanged but for the
reference to the window.
-/
import Mathlib.Data.List.Forall2
import WindowSystem.Proofs.EventStream.Crowd
import WindowSystem.Proofs.EventStream.Look

namespace WindowSystem

namespace EventStream

open Consumers (Alone Crowd IsWaiting)

/-! ## Attempts -/

/-- What a consumer can do, or what happens to the window manager past the stream. Every look
resolves identifiers in a way of its own. -/
inductive Attempt (N T : Type) where
  | come (name : String)
  | look (name : String) (resolve : WindowId → Option T)
  | leave (name : String)
  | outside (happening : Step Note N Unit)

variable {N W T : Type} [WindowManager N W]

/-- How consumers look for the events of a stream. -/
def source (resolve : WindowId → Option T) :
    Source Entry (EventStream N) W (Except BridgeError (Event (Option T))) where
  poll := poll resolve
  cancel := cancel

/-- What a consumer saw when it looked; none for all else. -/
abbrev Seen (T : Type) : Type := Option (Poll Unit (Except BridgeError (Event (Option T))))

/-- Does what an attempt says. -/
def attempt : Attempt N T → Step Entry (Crowd (EventStream N) W) (Seen T)
  | .come name => do
    Consumers.come (source fun _ => (none : Option T)) name
    pure none
  | .look name resolve => Consumers.poll (source resolve) name
  | .leave name => do
    let _ ← Consumers.leave (source fun _ => (none : Option T)) name
    pure none
  | .outside happening => do
    Consumers.onSource (onManager happening)
    pure none

/-- Does what a list of attempts says, from the first to the last. -/
def attemptAll : List (Attempt N T) → Step Entry (Crowd (EventStream N) W) (List (Seen T))
  | [] => pure []
  | a :: rest => do
    let seen ← attempt a
    let others ← attemptAll rest
    pure (seen :: others)

/-- What the window manager yielded, in order: events and failures. -/
def yields (calls : List Call) : List (Except BackendError RawEvent) :=
  calls.filterMap fun
    | .poll answer => answer
    | _ => none

/-- What a look returned, with its way to resolve identifiers; a refusal returns nothing. -/
def returnedBy :
    Attempt N T × Seen T →
      Option ((WindowId → Option T) × Except BridgeError (Event (Option T)))
  | (.look _ resolve, some (.ready (.ok event))) => some (resolve, .ok event)
  | (.look _ resolve, some (.ready (.error (.backend e)))) => some (resolve, .error (.backend e))
  | _ => none

/-- What the looks of a run returned, in order. -/
def returned (attempts : List (Attempt N T)) (seen : List (Seen T)) :
    List ((WindowId → Option T) × Except BridgeError (Event (Option T))) :=
  (attempts.zip seen).filterMap returnedBy

/-! ## The protocol at one moment -/

/-- What holds of a stream and its consumers, and of whatever is attempted next. -/
structure Orderly (T : Type) (crowd : Crowd (EventStream N) W) : Prop where
  /-- At most one consumer waits, and the stream is marked exactly while one does. -/
  alone : Alone crowd.1.waiting crowd.2
  /-- A consumer whose first look comes while another waits is refused at once. Nothing is asked
  or resolved, and the mark stays. -/
  refused : ∀ (name : String) (resolve : WindowId → Option T),
    crowd.1.waiting = true → crowd.2.find? name = some .fresh →
    (attempt (.look name resolve)).run crowd =
      ⟨some (.ready (.error .eventStreamBusy)), (crowd.1, crowd.2.erase name), []⟩
  /-- Every other look asks the window manager once. A consumer that found nothing waits, under
  the mark; one that got an answer is gone, and the mark is cleared. -/
  asked : ∀ (name : String) (resolve : WindowId → Option T) (consumer : Consumer W),
    crowd.2.find? name = some consumer → (consumer = .fresh → crowd.1.waiting = false) →
    let o := (attempt (.look name resolve)).run crowd
    (∃ token, Entry.calls o.journal = [.poll none] ∧ o.answer = some (.pending ()) ∧
      o.state.1.waiting = true ∧ o.state.2 = crowd.2.put name (.waiting token)) ∨
    (∃ answer result, Entry.calls o.journal = [.poll (some answer)] ∧
      o.answer = some (.ready result) ∧ HandedOn resolve answer result ∧
      o.state.1.waiting = false ∧ o.state.2 = crowd.2.erase name)
  /-- A consumer that comes changes nothing for the others. -/
  coming : ∀ name, crowd.2.find? name = none →
    (attempt (.come name : Attempt N T)).run crowd =
      ⟨none, (crowd.1, crowd.2.put name .fresh), []⟩
  /-- Leaving before the first look, or after the answer, changes nothing. -/
  leavingIdle : ∀ name, ¬ crowd.2.IsWaiting name →
    (attempt (.leave name : Attempt N T)).run crowd =
      ⟨none, (crowd.1, crowd.2.erase name), []⟩
  /-- When the consumer who waits leaves, the mark is cleared. -/
  leavingWait : ∀ name, crowd.2.IsWaiting name →
    let o := (attempt (.leave name : Attempt N T)).run crowd
    Entry.calls o.journal = [.leave] ∧ o.state.1.waiting = false ∧
      o.state.2 = crowd.2.erase name

/-! ## A look -/

/-- Under the mark, a look leaves it set exactly if the consumer goes on waiting. -/
theorem settled_look (resolve : WindowId → Option T) (stream : EventStream N) (token : Option W)
    (hw : stream.waiting = true) :
    Consumers.Settled EventStream.waiting ((look resolve token).run stream) := by
  obtain ⟨hanswer, hstate, -⟩ := run_look resolve stream token
  cases hp : ((WindowManager.poll token).run stream.manager).answer with
  | pending next =>
    refine Or.inl ⟨next, ?_, ?_⟩
    · rw [hanswer, hp, Poll.handOn]
    · rw [hstate, hp, markAfter, hw]
  | ready answer =>
    refine Or.inr ⟨handOn resolve answer, ?_, ?_⟩
    · rw [hanswer, hp, Poll.handOn]
    · rw [hstate, hp, markAfter]

/-- An event stream lets one consumer wait at a time. -/
theorem exclusive_source (resolve : WindowId → Option T) :
    (source resolve : Source Entry (EventStream N) W _).Exclusive EventStream.waiting where
  refuses stream hw := by
    show (∃ a, ((poll resolve .fresh).run stream).answer = .ready a) ∧
      ((poll resolve .fresh).run stream).state.waiting = true
    rw [run_poll_busy resolve stream hw]
    exact ⟨⟨_, rfl⟩, hw⟩
  admits stream hw := by
    show Consumers.Settled EventStream.waiting ((poll resolve .fresh).run stream)
    rw [run_poll_admitted resolve stream hw]
    exact settled_look resolve { stream with waiting := true } none rfl
  again stream token hw := settled_look resolve stream (some token) hw
  cancelFresh _ := rfl
  cancelWaiting stream token := congrArg EventStream.waiting (run_cancel_waiting stream token).1

/-- A look that is not refused is a look at the marked stream. -/
theorem run_source_poll (resolve : WindowId → Option T) (stream : EventStream N)
    (consumer : Consumer W) (hadmitted : consumer = .fresh → stream.waiting = false)
    (hmarked : consumer ≠ .fresh → stream.waiting = true) :
    ∃ token, ((source resolve).poll consumer).run stream =
      (look resolve token).run { stream with waiting := true } := by
  cases consumer with
  | fresh => exact ⟨none, run_poll_admitted resolve stream (hadmitted rfl)⟩
  | waiting token =>
    refine ⟨some token, ?_⟩
    have hw : stream = { stream with waiting := true } := by
      rw [← hmarked (by simp)]
    rw [← hw]
    rfl

variable {crowd : Crowd (EventStream N) W}

/-- A look that is not refused asks the window manager once and hands its answer on. -/
theorem attempt_look_asked (halone : Alone crowd.1.waiting crowd.2) {name : String}
    (resolve : WindowId → Option T) {consumer : Consumer W}
    (hfound : crowd.2.find? name = some consumer)
    (hadmitted : consumer = .fresh → crowd.1.waiting = false) :
    let o := (attempt (.look name resolve)).run crowd
    (∃ token, Entry.calls o.journal = [.poll none] ∧ o.answer = some (.pending ()) ∧
      o.state.1.waiting = true ∧ o.state.2 = crowd.2.put name (.waiting token)) ∨
    (∃ answer result, Entry.calls o.journal = [.poll (some answer)] ∧
      o.answer = some (.ready result) ∧ HandedOn resolve answer result ∧
      o.state.1.waiting = false ∧ o.state.2 = crowd.2.erase name) := by
  obtain ⟨stream, c⟩ := crowd
  -- one who looked before waits, and nobody waits without the mark
  have hmarked : consumer ≠ .fresh → stream.waiting = true := by
    intro hne
    cases consumer with
    | fresh => exact absurd rfl hne
    | waiting token => exact halone.marked.mpr ⟨name, token, hfound⟩
  obtain ⟨token, hpoll⟩ := run_source_poll resolve stream consumer hadmitted hmarked
  obtain ⟨hanswer, hstate, hcalls⟩ := run_look resolve { stream with waiting := true } token
  rw [← hpoll] at hanswer hstate hcalls
  cases hp : ((WindowManager.poll token).run stream.manager).answer with
  | pending next =>
    rw [hp] at hanswer hstate hcalls
    left
    refine ⟨next, ?_⟩
    show Entry.calls ((Consumers.poll (source resolve) name).run (stream, c)).journal = _ ∧ _
    rw [attempt, Consumers.run_poll_pending (source resolve) stream c hfound hanswer]
    refine ⟨hcalls, rfl, ?_, rfl⟩
    show (((source resolve).poll consumer).run stream).state.waiting = true
    rw [hstate, markAfter]
  | ready answer =>
    rw [hp] at hanswer hstate hcalls
    right
    refine ⟨answer, handOn resolve answer, ?_⟩
    show Entry.calls ((Consumers.poll (source resolve) name).run (stream, c)).journal = _ ∧ _
    rw [attempt, Consumers.run_poll_ready (source resolve) stream c hfound hanswer]
    refine ⟨hcalls, rfl, handedOn_handOn resolve answer, ?_, rfl⟩
    show (((source resolve).poll consumer).run stream).state.waiting = false
    rw [hstate, markAfter]

/-! ## One attempt -/

theorem alone_attempt (h : Alone crowd.1.waiting crowd.2) (a : Attempt N T) :
    Alone ((attempt a).run crowd).state.1.waiting ((attempt a).run crowd).state.2 := by
  cases a with
  | come name => exact Consumers.alone_come (exclusive_source _) h name
  | look name resolve => exact Consumers.alone_poll (exclusive_source resolve) h name
  | leave name => exact Consumers.alone_leave (exclusive_source _) h name
  | outside happening => exact h

/-- A crowd in which at most one consumer waits is served in order. -/
theorem orderly_of_alone (h : Alone crowd.1.waiting crowd.2) : Orderly T crowd := by
  obtain ⟨stream, c⟩ := crowd
  refine ⟨h, ?_, ?_, ?_, ?_, ?_⟩
  · intro name resolve hw hfound
    have hbusy := run_poll_busy (W := W) resolve stream hw
    have hready : (((source resolve).poll .fresh).run stream).answer =
        .ready (.error .eventStreamBusy) := congrArg Outcome.answer hbusy
    rw [attempt, Consumers.run_poll_ready (source resolve) stream c hfound hready]
    show (⟨_, (((poll resolve .fresh).run stream).state, _),
      ((poll resolve .fresh).run stream).journal⟩ : Outcome _ _ _) = _
    rw [hbusy]
  · intro name resolve consumer hfound hadmitted
    exact attempt_look_asked h resolve hfound hadmitted
  · intro name habsent
    rw [attempt, Step.run_bind, Consumers.run_come, habsent]
    rfl
  · intro name hidle
    rw [attempt, Step.run_bind, Consumers.run_leave]
    rcases hf : c.find? name with _ | (_ | token)
    · rfl
    · rfl
    · exact absurd ⟨token, hf⟩ hidle
  · rintro name ⟨token, hf⟩
    rw [attempt, Step.run_bind, Consumers.run_leave, hf]
    obtain ⟨hstate, hcalls⟩ := run_cancel_waiting stream token
    refine ⟨?_, congrArg EventStream.waiting hstate, rfl⟩
    show Entry.calls (((cancel (.waiting token)).run stream).journal ++ []) = [.leave]
    rw [List.append_nil, hcalls]

/-- What the window manager yields to an answer, and what the attempt returns of it, agree: an event
is the same but for its window, and a failure is the same. -/
def Agrees (raw : Except BackendError RawEvent)
    (result : (WindowId → Option T) × Except BridgeError (Event (Option T))) : Prop :=
  HandedOn result.1 raw result.2

@[simp]
theorem yields_append (a b : List Call) : yields (a ++ b) = yields a ++ yields b :=
  List.filterMap_append

/-- An attempt returns what the window manager yielded during it. -/
theorem returnedBy_attempt (h : Alone crowd.1.waiting crowd.2) (a : Attempt N T) :
    List.Forall₂ Agrees (yields (Entry.calls ((attempt a).run crowd).journal))
      (returnedBy (a, ((attempt a).run crowd).answer)).toList := by
  obtain ⟨stream, c⟩ := crowd
  -- but for a look, nothing is yielded and nothing returned
  have hnone : ∀ {journal : List Entry} {seen : Seen T}, yields (Entry.calls journal) = [] →
      returnedBy (a, seen) = none →
      List.Forall₂ Agrees (yields (Entry.calls journal)) (returnedBy (a, seen)).toList := by
    intro journal seen hy hr
    rw [hy, hr]
    exact .nil
  cases a with
  | come name =>
    refine hnone ?_ rfl
    rw [attempt, Step.run_bind, Consumers.run_come]
    rcases c.find? name with _ | (_ | token)
    · rfl
    · rfl
    · show yields (Entry.calls (((cancel (.waiting token)).run stream).journal ++ [])) = []
      rw [List.append_nil, (run_cancel_waiting stream token).2]
      rfl
  | leave name =>
    refine hnone ?_ rfl
    by_cases hw : c.IsWaiting name
    · rw [((orderly_of_alone (T := T) h).leavingWait name hw).1]
      rfl
    · rw [(orderly_of_alone (T := T) h).leavingIdle name hw]
      rfl
  | outside happening =>
    refine hnone ?_ rfl
    show yields (Entry.calls
      (((happening.run stream.manager).journal.map (.note .manager)) ++ [])) = []
    rw [List.append_nil, Entry.calls_map_note]
    rfl
  | look name resolve =>
    cases hf : c.find? name with
    | none =>
      rw [attempt, Consumers.run_poll_absent (source resolve) stream c hf]
      exact .nil
    | some consumer =>
      by_cases hadmitted : consumer = .fresh → stream.waiting = false
      · rcases attempt_look_asked h resolve hf hadmitted with
          ⟨token, hcalls, hanswer, -⟩ | ⟨answer, result, hcalls, hanswer, hhanded, -⟩
        · rw [hcalls, hanswer]
          exact .nil
        · rw [hcalls, hanswer]
          cases hhanded with
          | event hsame => exact .cons (.event hsame) .nil
          | failure e => exact .cons (.failure e) .nil
      · -- the manager is not asked for one who is refused
        obtain ⟨hfresh, hw⟩ := Classical.not_imp.mp hadmitted
        rw [hfresh] at hf
        rw [(orderly_of_alone h).refused name resolve (by simpa using hw) hf]
        exact .nil

/-! ## A run of attempts -/

theorem alone_attemptAll (attempts : List (Attempt N T)) (h : Alone crowd.1.waiting crowd.2) :
    Alone ((attemptAll attempts).run crowd).state.1.waiting
      ((attemptAll attempts).run crowd).state.2 := by
  induction attempts generalizing crowd with
  | nil => exact h
  | cons a rest ih => exact ih (alone_attempt h a)

/-- A run returns what the window manager yielded during it, in the same order. -/
theorem returned_attemptAll (attempts : List (Attempt N T))
    (h : Alone crowd.1.waiting crowd.2) :
    List.Forall₂ Agrees (yields (Entry.calls ((attemptAll attempts).run crowd).journal))
      (returned attempts ((attemptAll attempts).run crowd).answer) := by
  induction attempts generalizing crowd with
  | nil => exact .nil
  | cons a rest ih =>
    have hfirst := returnedBy_attempt h a
    have hrest := ih (alone_attempt h a)
    have hreturned : returned (a :: rest) ((attemptAll (a :: rest)).run crowd).answer =
        (returnedBy (a, ((attempt a).run crowd).answer)).toList ++
          returned rest ((attemptAll rest).run ((attempt a).run crowd).state).answer := by
      show (List.filterMap returnedBy ((a, _) :: _)) = _
      rw [List.filterMap_cons]
      cases returnedBy (a, ((attempt a).run crowd).answer) <;> rfl
    have hcalls : Entry.calls ((attemptAll (a :: rest)).run crowd).journal =
        Entry.calls ((attempt a).run crowd).journal ++
          Entry.calls ((attemptAll rest).run ((attempt a).run crowd).state).journal := by
      rw [attemptAll, Step.run_bind, Step.run_bind, Step.run_pure, Entry.calls_append,
        List.append_nil]
    rw [hreturned, hcalls, yields_append]
    exact List.rel_append hfirst hrest

/-- **One consumer at a time.** Whatever the window manager answers and whatever happens to it,
and in whatever order consumers come, look, look again and leave: at most one consumer waits, the
stream is marked exactly while one does, and new consumers are refused meanwhile and admitted
otherwise. What the manager yields is returned to the consumers who obtained it, in the same
order, events with their window resolved and failures as they are. -/
theorem one_consumer_at_a_time (manager : N) (attempts : List (Attempt N T)) :
    let run := (attemptAll attempts).run ((⟨manager, false⟩, {}) : Crowd (EventStream N) W)
    Orderly T run.state ∧
      List.Forall₂ Agrees (yields (Entry.calls run.journal)) (returned attempts run.answer) := by
  have hstart : Alone false ({} : Consumers W) := Consumers.alone_empty
  exact ⟨orderly_of_alone (alone_attemptAll attempts hstart),
    returned_attemptAll attempts hstart⟩

end EventStream

end WindowSystem
