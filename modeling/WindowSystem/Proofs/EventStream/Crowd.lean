/-
# Crowds of consumers

Consumers by name at one source: who is found after one has come, looked or left, and what the
source saw of it. If the source refuses new consumers while one waits, as `Exclusive` says, then
in every crowd at most one consumer waits, and the mark of the source says whether one does
(`Alone`); this is kept by everything a consumer can do.
-/
import WindowSystem.Bridge.Consumers

namespace WindowSystem

namespace Consumers

variable {ω σ W α : Type}

/-! ## Looking up by name -/

/-- No two consumers share a name. -/
def DistinctNames (c : Consumers W) : Prop := (c.byName.map Prod.fst).Nodup

@[simp]
theorem find?_empty (name : String) : ({} : Consumers W).find? name = none := rfl

@[simp]
theorem find?_erase_self (c : Consumers W) (name : String) : (c.erase name).find? name = none := by
  simp [find?, erase, List.find?_filter]

/-- Erasing a name leaves the consumers under other names. -/
theorem find?_erase_of_ne (c : Consumers W) {name other : String} (h : other ≠ name) :
    (c.erase name).find? other = c.find? other := by
  simp only [find?, erase, List.find?_filter]
  congr 2
  funext entry
  by_cases he : entry.1 = other
  · simp [he, h]
  · simp [he]

@[simp]
theorem find?_put_self (c : Consumers W) (name : String) (consumer : Consumer W) :
    (c.put name consumer).find? name = some consumer := by
  -- the new entry stands last, so those before it must be of other names
  have habsent : (c.erase name).byName.find? (fun entry => entry.1 = name) = none := by
    have h := find?_erase_self c name
    rwa [find?, Option.map_eq_none_iff] at h
  rw [find?, put, List.find?_append, habsent]
  simp

/-- Putting a consumer under a name leaves those under other names. -/
theorem find?_put_of_ne (c : Consumers W) {name other : String} (consumer : Consumer W)
    (h : other ≠ name) : (c.put name consumer).find? other = c.find? other := by
  rw [← find?_erase_of_ne c h, find?, put, List.find?_append, find?]
  simp [Ne.symm h]

/-- Whoever waits after a name was erased waited before. -/
theorem find?_of_erase {c : Consumers W} {name other : String} {token : W}
    (h : (c.erase name).find? other = some (.waiting token)) :
    c.find? other = some (.waiting token) := by
  by_cases ho : other = name
  · rw [ho, find?_erase_self] at h
    cases h
  · rwa [find?_erase_of_ne c ho] at h

/-- Whoever waits after a new consumer came waited before. -/
theorem find?_of_put_fresh {c : Consumers W} {name other : String} {token : W}
    (h : (c.put name .fresh).find? other = some (.waiting token)) :
    c.find? other = some (.waiting token) := by
  by_cases ho : other = name
  · rw [ho, find?_put_self] at h
    cases h
  · rwa [find?_put_of_ne c _ ho] at h

theorem distinctNames_empty : DistinctNames ({} : Consumers W) := List.nodup_nil

theorem DistinctNames.erase {c : Consumers W} (hc : c.DistinctNames) (name : String) :
    (c.erase name).DistinctNames :=
  (List.filter_sublist.map Prod.fst).nodup hc

theorem DistinctNames.put {c : Consumers W} (hc : c.DistinctNames) (name : String)
    (consumer : Consumer W) : (c.put name consumer).DistinctNames := by
  have hfree : name ∉ (c.erase name).byName.map Prod.fst := by
    intro hmem
    obtain ⟨entry, hentry, hname⟩ := List.mem_map.mp hmem
    have hne := (List.mem_filter.mp hentry).2
    simp [hname] at hne
  unfold DistinctNames Consumers.put
  rw [List.map_append, List.map_cons, List.map_nil, List.nodup_append]
  refine ⟨hc.erase name, by simp, ?_⟩
  intro a ha b hb hab
  rw [List.mem_singleton] at hb
  rw [hab, hb] at ha
  exact hfree ha

/-! ## What the source sees -/

variable (source : Source ω σ W α) (s : σ) (c : Consumers W)

theorem run_dismiss_none : (dismiss source none).run (s, c) = ⟨(), (s, c), []⟩ := rfl

theorem run_dismiss_some (consumer : Consumer W) :
    (dismiss source (some consumer)).run (s, c) =
      ⟨(), (((source.cancel consumer).run s).state, c),
       ((source.cancel consumer).run s).journal⟩ := rfl

/-- A consumer that comes is new; the one whose name it takes is dismissed. -/
theorem run_come (name : String) :
    (come source name).run (s, c) =
      (dismiss source (c.find? name)).run (s, c.put name .fresh) := by
  unfold come change
  simp only [Step.run_bind, Step.run_get, Step.run_modify, List.nil_append]

/-- Nobody looks under a name that nobody has. -/
theorem run_poll_absent {name : String} (h : c.find? name = none) :
    (poll source name).run (s, c) = ⟨none, (s, c), []⟩ := by
  unfold poll
  simp only [Step.run_bind, Step.run_get, h, Step.run_pure, List.append_nil]

/-- A consumer that found nothing goes on waiting. -/
theorem run_poll_pending {name : String} {consumer next : Consumer W}
    (h : c.find? name = some consumer)
    (hp : ((source.poll consumer).run s).answer = .pending next) :
    (poll source name).run (s, c) =
      ⟨some (.pending ()), (((source.poll consumer).run s).state, c.put name next),
       ((source.poll consumer).run s).journal⟩ := by
  unfold poll change
  simp only [Step.run_bind, Step.run_get, h, onSource, Step.run_within, hp, Step.run_modify,
    Step.run_pure, List.nil_append, List.append_nil]

/-- A consumer that got an answer is gone. -/
theorem run_poll_ready {name : String} {consumer : Consumer W} {a : α}
    (h : c.find? name = some consumer)
    (hp : ((source.poll consumer).run s).answer = .ready a) :
    (poll source name).run (s, c) =
      ⟨some (.ready a), (((source.poll consumer).run s).state, c.erase name),
       ((source.poll consumer).run s).journal⟩ := by
  unfold poll change
  simp only [Step.run_bind, Step.run_get, h, onSource, Step.run_within, hp, Step.run_modify,
    Step.run_pure, List.nil_append, List.append_nil]

/-- Whatever comes of it, the look of a consumer that is there is one at the source. -/
theorem source_poll {name : String} {consumer : Consumer W} (h : c.find? name = some consumer) :
    let o := (poll source name).run (s, c)
    let looked := (source.poll consumer).run s
    o.journal = looked.journal ∧ o.state.1 = looked.state := by
  intro o looked
  cases hp : looked.answer with
  | pending next =>
    have hrun := run_poll_pending source s c h hp
    exact ⟨congrArg Outcome.journal hrun, congrArg (·.state.1) hrun⟩
  | ready a =>
    have hrun := run_poll_ready source s c h hp
    exact ⟨congrArg Outcome.journal hrun, congrArg (·.state.1) hrun⟩

/-- A consumer that leaves is dismissed. -/
theorem run_leave (name : String) :
    (leave source name).run (s, c) =
      ⟨(c.find? name).isSome,
       ((dismiss source (c.find? name)).run (s, c.erase name)).state,
       ((dismiss source (c.find? name)).run (s, c.erase name)).journal⟩ := by
  unfold leave change
  simp only [Step.run_bind, Step.run_get, Step.run_modify, Step.run_pure, List.nil_append,
    List.append_nil]

/-! ## At most one waits -/

/-- The consumer under a name waits. -/
def IsWaiting (c : Consumers W) (name : String) : Prop :=
  ∃ token, c.find? name = some (.waiting token)

/-- At most one consumer waits, and the mark is set exactly while one does. -/
structure Alone (mark : Bool) (c : Consumers W) : Prop where
  /-- Each consumer has a name of its own. -/
  names : c.DistinctNames
  /-- The mark is set exactly while some consumer waits. -/
  marked : mark = true ↔ ∃ name, c.IsWaiting name
  /-- No two consumers wait. -/
  single : ∀ {name other : String}, c.IsWaiting name → c.IsWaiting other → name = other

theorem alone_empty : Alone false ({} : Consumers W) where
  names := distinctNames_empty
  marked := by simp [IsWaiting]
  single := by
    rintro name other ⟨token, h⟩ -
    simp at h

/-- How a look comes out at a source whose mark is `mark`: the consumer waits under the mark, or
it got an answer and the mark is cleared. -/
def Settled (mark : σ → Bool) (o : Outcome ω σ (Poll (Consumer W) α)) : Prop :=
  (∃ token, o.answer = .pending (.waiting token) ∧ mark o.state = true) ∨
    (∃ a, o.answer = .ready a ∧ mark o.state = false)

end Consumers

/-- A source that lets one consumer wait at a time, and marks that one waits. -/
structure Source.Exclusive {ω σ W α : Type} (source : Source ω σ W α) (mark : σ → Bool) :
    Prop where
  /-- A new consumer is refused while another one waits, and the mark stays. -/
  refuses : ∀ s, mark s = true →
    (∃ a, ((source.poll .fresh).run s).answer = .ready a) ∧
      mark ((source.poll .fresh).run s).state = true
  admits : ∀ s, mark s = false → Consumers.Settled mark ((source.poll .fresh).run s)
  again : ∀ s token, mark s = true →
    Consumers.Settled mark ((source.poll (.waiting token)).run s)
  /-- Giving up before the first look leaves the mark. -/
  cancelFresh : ∀ s, mark ((source.cancel .fresh).run s).state = mark s
  cancelWaiting : ∀ s token, mark ((source.cancel (.waiting token)).run s).state = false

namespace Consumers

variable {ω σ W α : Type} {source : Source ω σ W α} {mark : σ → Bool} {s : σ} {c : Consumers W}

namespace Alone

variable {b : Bool}

/-- The consumer under a name gives way to one that does not wait. -/
theorem put_fresh (h : Alone b c) {name : String} {b' : Bool}
    (hb : b' = true ↔ ∃ other, other ≠ name ∧ c.IsWaiting other) :
    Alone b' (c.put name .fresh) := by
  have hiff : ∀ other, (c.put name .fresh).IsWaiting other ↔ other ≠ name ∧ c.IsWaiting other := by
    intro other
    by_cases ho : other = name
    · subst ho
      simp [IsWaiting]
    · simp [IsWaiting, find?_put_of_ne c _ ho, ho]
  refine ⟨h.names.put name .fresh, ?_, ?_⟩
  · rw [hb]
    exact exists_congr fun other => (hiff other).symm
  · intro n m hn hm
    exact h.single ((hiff n).mp hn).2 ((hiff m).mp hm).2

/-- The consumer under a name goes. -/
theorem erase (h : Alone b c) {name : String} {b' : Bool}
    (hb : b' = true ↔ ∃ other, other ≠ name ∧ c.IsWaiting other) :
    Alone b' (c.erase name) := by
  have hiff : ∀ other, (c.erase name).IsWaiting other ↔ other ≠ name ∧ c.IsWaiting other := by
    intro other
    by_cases ho : other = name
    · subst ho
      simp [IsWaiting]
    · simp [IsWaiting, find?_erase_of_ne c ho, ho]
  refine ⟨h.names.erase name, ?_, ?_⟩
  · rw [hb]
    exact exists_congr fun other => (hiff other).symm
  · intro n m hn hm
    exact h.single ((hiff n).mp hn).2 ((hiff m).mp hm).2

/-- A consumer begins to wait, or goes on, where nobody else waits. -/
theorem put_waiting (h : Alone b c) {name : String} (token : W)
    (hothers : ∀ other, c.IsWaiting other → other = name) :
    Alone true (c.put name (.waiting token)) := by
  have hname : (c.put name (.waiting token)).IsWaiting name := ⟨token, find?_put_self c name _⟩
  have honly : ∀ other, (c.put name (.waiting token)).IsWaiting other → other = name := by
    rintro other ⟨t, ht⟩
    by_cases ho : other = name
    · exact ho
    · rw [find?_put_of_ne c _ ho] at ht
      exact hothers other ⟨t, ht⟩
  refine ⟨h.names.put name _, ⟨fun _ => ⟨name, hname⟩, fun _ => rfl⟩, ?_⟩
  intro n m hn hm
  rw [honly n hn, honly m hm]

/-- Nobody waits where the mark is cleared. -/
theorem not_isWaiting (h : Alone false c) (name : String) : ¬ c.IsWaiting name :=
  fun hw => Bool.false_ne_true (h.marked.mpr ⟨name, hw⟩)

/-- Whoever else waits beside a consumer that does not is counted by the mark. -/
theorem marked_of_not_waiting (h : Alone b c) {name : String} (hn : ¬ c.IsWaiting name) :
    b = true ↔ ∃ other, other ≠ name ∧ c.IsWaiting other := by
  rw [h.marked]
  constructor
  · rintro ⟨other, ho⟩
    exact ⟨other, fun he => hn (he ▸ ho), ho⟩
  · rintro ⟨other, -, ho⟩
    exact ⟨other, ho⟩

/-- Beside a consumer who waits there is no other. -/
theorem unmarked_of_waiting (h : Alone b c) {name : String} (hn : c.IsWaiting name) :
    false = true ↔ ∃ other, other ≠ name ∧ c.IsWaiting other := by
  constructor
  · intro hf
    exact absurd hf Bool.false_ne_true
  · rintro ⟨other, hne, ho⟩
    exact absurd (h.single ho hn) hne

end Alone

/-! ### Each action of a consumer keeps it so -/

/-- A dismissed consumer leaves the mark as whoever else waits. -/
theorem mark_dismiss (hs : source.Exclusive mark) (h : Alone (mark s) c) (name : String)
    (c' : Consumers W) :
    mark ((dismiss source (c.find? name)).run (s, c')).state.1 = true ↔
      ∃ other, other ≠ name ∧ c.IsWaiting other := by
  -- only one who waited clears the mark, and then nobody else waits
  rcases hf : c.find? name with _ | (_ | token)
  · rw [run_dismiss_none]
    exact h.marked_of_not_waiting (by simp [IsWaiting, hf])
  · rw [run_dismiss_some]
    show mark ((source.cancel .fresh).run s).state = true ↔ _
    rw [hs.cancelFresh]
    exact h.marked_of_not_waiting (by simp [IsWaiting, hf])
  · rw [run_dismiss_some]
    show mark ((source.cancel (.waiting token)).run s).state = true ↔ _
    rw [hs.cancelWaiting]
    exact h.unmarked_of_waiting ⟨token, hf⟩

/-- The consumers after one was dismissed are those before. -/
theorem dismiss_consumers (name : Option (Consumer W)) (c : Consumers W) :
    ((dismiss source name).run (s, c)).state.2 = c := by
  cases name <;> rfl

theorem alone_come (hs : source.Exclusive mark) (h : Alone (mark s) c) (name : String) :
    Alone (mark ((come source name).run (s, c)).state.1)
      ((come source name).run (s, c)).state.2 := by
  rw [run_come, dismiss_consumers]
  exact h.put_fresh (mark_dismiss hs h name _)

theorem alone_leave (hs : source.Exclusive mark) (h : Alone (mark s) c) (name : String) :
    Alone (mark ((leave source name).run (s, c)).state.1)
      ((leave source name).run (s, c)).state.2 := by
  rw [run_leave]
  show Alone (mark ((dismiss source (c.find? name)).run (s, c.erase name)).state.1)
    ((dismiss source (c.find? name)).run (s, c.erase name)).state.2
  rw [dismiss_consumers]
  exact h.erase (mark_dismiss hs h name _)

/-- A look that settles keeps at most one waiting, if nobody but the one who looks waits. -/
theorem alone_poll_settled {name : String} {consumer : Consumer W}
    (hf : c.find? name = some consumer) (h : Alone (mark s) c)
    (hothers : ∀ other, c.IsWaiting other → other = name)
    (hsettled : Settled mark ((source.poll consumer).run s)) :
    Alone (mark ((poll source name).run (s, c)).state.1)
      ((poll source name).run (s, c)).state.2 := by
  rcases hsettled with ⟨token, ha, hm⟩ | ⟨a, ha, hm⟩
  · rw [run_poll_pending source s c hf ha, hm]
    exact h.put_waiting token hothers
  · rw [run_poll_ready source s c hf ha, hm]
    refine h.erase ⟨fun hb => absurd hb Bool.false_ne_true, ?_⟩
    rintro ⟨other, hne, ho⟩
    exact absurd (hothers other ho) hne

theorem alone_poll (hs : source.Exclusive mark) (h : Alone (mark s) c) (name : String) :
    Alone (mark ((poll source name).run (s, c)).state.1)
      ((poll source name).run (s, c)).state.2 := by
  rcases hf : c.find? name with _ | (_ | token)
  · rw [run_poll_absent source s c hf]
    exact h
  · cases hm : mark s with
    | true =>
      -- someone else waits, and the mark stays theirs
      obtain ⟨⟨a, ha⟩, hkept⟩ := hs.refuses s hm
      rw [run_poll_ready source s c hf ha, hkept]
      rw [hm] at h
      exact h.erase (h.marked_of_not_waiting (by simp [IsWaiting, hf]))
    | false =>
      refine alone_poll_settled hf h ?_ (hs.admits s hm)
      intro other ho
      rw [hm] at h
      exact absurd ho (h.not_isWaiting other)
  · have hname : c.IsWaiting name := ⟨token, hf⟩
    have hm : mark s = true := h.marked.mpr ⟨name, hname⟩
    exact alone_poll_settled hf h (fun other ho => h.single ho hname) (hs.again s token hm)

end Consumers

end WindowSystem
