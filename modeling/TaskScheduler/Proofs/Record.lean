import TaskScheduler.Record

/-
  What one section can do to one record.

  `Settles a b`: from `a` to `b` the record has been left as it is, or given up, by someone other
  than a worker. `Keeps a b`: what every section leaves alone. A record goes from `pending` to
  `running` by `beginRun` alone, and back to `pending` only at the end of a run of a periodic one.
-/
namespace TaskScheduler.Record

variable {α : Type} {a b c : Record α}

/-- What is never changed: the number, the recurrence, and a terminal state. -/
structure Keeps (a b : Record α) : Prop where
  id : b.id = a.id
  recurrence : b.recurrence = a.recurrence
  final : a.isFinal = true → b.state = a.state

/-- A record that waits may be taken back, and one that runs may be cancelled. -/
structure Settles (a b : Record α) : Prop where
  id : b.id = a.id
  recurrence : b.recurrence = a.recurrence
  bodySpent : b.bodySpent = a.bodySpent
  state : b.state = a.state ∨ (a.state = .pending ∧ (b.state = .cancelled ∨ b.state = .failed)) ∨
    (a.state = .running ∧ b.state = .cancelled)

theorem Keeps.refl (a : Record α) : Keeps a a := ⟨rfl, rfl, fun _ => rfl⟩

theorem Keeps.trans (h : Keeps a b) (h' : Keeps b c) : Keeps a c where
  id := h'.id.trans h.id
  recurrence := h'.recurrence.trans h.recurrence
  final := by
    intro hfinal
    have hstate := h.final hfinal
    rw [h'.final (by rw [Record.isFinal, hstate]; exact hfinal), hstate]

theorem Settles.keeps (h : Settles a b) : Keeps a b where
  id := h.id
  recurrence := h.recurrence
  final := by
    intro hfinal
    rcases h.state with hsame | ⟨hstate, -⟩ | ⟨hstate, -⟩
    · exact hsame
    · rw [Record.isFinal, hstate] at hfinal
      cases hfinal
    · rw [Record.isFinal, hstate] at hfinal
      cases hfinal

theorem Keeps.repeats (h : Keeps a b) : b.repeats = a.repeats :=
  congrArg Recurrence.repeats h.recurrence

theorem Settles.refl (a : Record α) : Settles a a := ⟨rfl, rfl, rfl, .inl rfl⟩

theorem giveUp_settles (a : Record α) : Settles a a.giveUp.1 := by
  unfold giveUp
  split
  next hstate => exact ⟨rfl, rfl, rfl, .inr (.inl ⟨hstate, .inl rfl⟩)⟩
  next => exact .refl a

theorem reject_settles (a : Record α) (reason : String) : Settles a (a.reject reason).1 := by
  unfold reject
  split
  next hstate => exact ⟨rfl, rfl, rfl, .inr (.inl ⟨hstate, .inr rfl⟩)⟩
  next => exact .refl a

theorem cancel_settles (a : Record α) (mayInterrupt : Bool) :
    Settles a (a.cancel mayInterrupt).1 := by
  unfold cancel
  split
  next hstate => exact ⟨rfl, rfl, rfl, .inr (.inl ⟨hstate, .inl rfl⟩)⟩
  next hstate =>
    split
    · exact ⟨rfl, rfl, rfl, .inr (.inr ⟨hstate, rfl⟩)⟩
    · exact .refl a
  next => exact .refl a

theorem postpone_settles (a : Record α) (trigger : Instant) : Settles a (a.postpone trigger) := by
  unfold postpone
  split
  · exact ⟨rfl, rfl, rfl, .inl rfl⟩
  · exact .refl a

theorem noteHandoffFailure_settles (a : Record α) : Settles a a.noteHandoffFailure :=
  ⟨rfl, rfl, rfl, .inl rfl⟩

theorem collectOutcome_settles (a : Record α) : Settles a a.collectOutcome.1 :=
  ⟨rfl, rfl, rfl, .inl rfl⟩

/-- A cancellation that is accepted ends the record, and so does giving it up. -/
theorem cancel_ends (a : Record α) {mayInterrupt : Bool}
    (h : (a.cancel mayInterrupt).2.accepted = true) :
    a.isFinal = false ∧ (a.cancel mayInterrupt).1.isFinal = true := by
  unfold cancel at h ⊢
  rw [isFinal]
  split at h
  next hstate =>
    rw [hstate]
    exact ⟨rfl, rfl⟩
  next hstate =>
    rw [hstate]
    split at h
    next hmay =>
      rw [if_pos hmay]
      exact ⟨rfl, rfl⟩
    next => cases h
  next => cases h

theorem giveUp_ends (a : Record α) (h : a.giveUp.2 = true) :
    a.isFinal = false ∧ a.giveUp.1.isFinal = true := by
  unfold giveUp at h ⊢
  rw [isFinal]
  split at h
  next hstate =>
    rw [hstate]
    exact ⟨rfl, rfl⟩
  next => cases h

/-- A record that has been given up, or was rejected, does not wait any more. -/
theorem giveUp_state (a : Record α) : a.giveUp.1.state ≠ .pending := by
  unfold giveUp
  split
  · nofun
  next hstate => exact hstate

theorem reject_state (a : Record α) (reason : String) : (a.reject reason).1.state ≠ .pending := by
  unfold reject
  split
  · nofun
  next hstate => exact hstate

/-- A record that has been rejected is not rejected again. -/
theorem reject_reject (a : Record α) (reason : String) :
    ((a.reject reason).1.reject reason).1 = (a.reject reason).1 := by
  have hstate := reject_state a reason
  generalize (a.reject reason).1 = b at hstate
  unfold reject
  split
  next hpending => exact absurd hpending hstate
  next => rfl

/-! ## Runs -/

/-- From `a` to `b` the body has been called, or there was none left to call. -/
structure Enters (a b : Record α) : Prop where
  id : b.id = a.id
  recurrence : b.recurrence = a.recurrence
  state : b.state = a.state

theorem enterBody_enters (a : Record α) : Enters a a.enterBody.1 := by
  unfold enterBody
  split <;> exact ⟨rfl, rfl, rfl⟩

theorem Enters.keeps (h : Enters a b) : Keeps a b := ⟨h.id, h.recurrence, fun _ => h.state⟩

/-- From `a` to `b` the body has ended, and `after` is what comes next. A record that was cancelled
meanwhile stays as it is. -/
structure Completes (a b : Record α) (after : AfterRun) : Prop where
  id : b.id = a.id
  recurrence : b.recurrence = a.recurrence
  bodySpent : b.bodySpent = a.bodySpent
  state : (a.state ≠ .running ∧ b.state = a.state ∧ after = .finished) ∨
    (a.state = .running ∧ b.isFinal = true ∧ after = .finished) ∨
    (a.state = .running ∧ b.state = .pending ∧ a.repeats = true ∧ after = .reschedule)

theorem complete_completes (a : Record α) (last now : Instant) (result : BodyResult α) :
    Completes a (a.complete last now result).1 (a.complete last now result).2.1 := by
  unfold complete
  split
  next hstate =>
    split
    · split
      next hrepeats => exact ⟨rfl, rfl, rfl, .inr (.inr ⟨hstate, rfl, hrepeats, rfl⟩)⟩
      next => exact ⟨rfl, rfl, rfl, .inr (.inl ⟨hstate, rfl, rfl⟩)⟩
    · exact ⟨rfl, rfl, rfl, .inr (.inl ⟨hstate, rfl, rfl⟩)⟩
    · exact ⟨rfl, rfl, rfl, .inr (.inl ⟨hstate, rfl, rfl⟩)⟩
  next hstate => exact ⟨rfl, rfl, rfl, .inl ⟨hstate, rfl, rfl⟩⟩

theorem Completes.not_running {after : AfterRun} (h : Completes a b after) :
    b.state ≠ .running := by
  intro hrunning
  rcases h.state with ⟨hnot, hsame, -⟩ | ⟨-, hfinal, -⟩ | ⟨-, hpending, -⟩
  · exact hnot (hsame.symm.trans hrunning)
  · rw [Record.isFinal, hrunning] at hfinal
    cases hfinal
  · rw [hpending] at hrunning
    cases hrunning

theorem Completes.keeps {after : AfterRun} (h : Completes a b after) : Keeps a b where
  id := h.id
  recurrence := h.recurrence
  final := by
    intro hfinal
    rcases h.state with ⟨-, hsame, -⟩ | ⟨hstate, -⟩ | ⟨hstate, -⟩
    · exact hsame
    · rw [Record.isFinal, hstate] at hfinal
      cases hfinal
    · rw [Record.isFinal, hstate] at hfinal
      cases hfinal

end TaskScheduler.Record
