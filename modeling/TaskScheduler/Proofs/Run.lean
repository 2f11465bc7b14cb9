import TaskScheduler.Proofs.Sections

/-
  Runs of the service: actions one after the other.

  `exec` carries out a list of actions, and `occurrences` counts the steps of a run at which
  something happens. `exec_keeps`: what every step keeps, the run keeps. `Reachable.of_moves`: what
  holds at the start and is kept by every move holds in every reachable state.
-/
namespace TaskScheduler.System

variable {α : Type} {s s' t : System α}

/-- The service after some actions, or `none` if one of them cannot happen when its turn comes. -/
def exec (s : System α) : List (Action α) → Option (System α)
  | [] => some s
  | a :: rest => (s.step a).bind (exec · rest)

/-- How many steps of a run are of a certain kind, which may depend on the state before, the action
and the state after. -/
def occurrences (event : System α → Action α → System α → Bool) (s : System α) :
    List (Action α) → Nat
  | [] => 0
  | a :: rest =>
    match s.step a with
    | some s' => (event s a s').toNat + occurrences event s' rest
    | none => 0

theorem exec_cons {a : Action α} {rest : List (Action α)} (h : s.exec (a :: rest) = some t) :
    ∃ s', s.step a = some s' ∧ s'.exec rest = some t :=
  Option.bind_eq_some_iff.mp h

theorem occurrences_cons {a : Action α} (h : s.step a = some s')
    (event : System α → Action α → System α → Bool) (rest : List (Action α)) :
    s.occurrences event (a :: rest) = (event s a s').toNat + s'.occurrences event rest := by
  rw [occurrences, h]

/-- A run of two parts. -/
theorem exec_append {u : System α} {before after : List (Action α)} (h : s.exec before = some t) :
    s.exec (before ++ after) = some u ↔ t.exec after = some u := by
  induction before generalizing s with
  | nil =>
    cases h
    rfl
  | cons a rest ih =>
    obtain ⟨s', hstep, hrest⟩ := exec_cons h
    rw [List.cons_append, exec, hstep, Option.bind_some]
    exact ih hrest

theorem occurrences_append {before : List (Action α)} (h : s.exec before = some t)
    (event : System α → Action α → System α → Bool) (after : List (Action α)) :
    s.occurrences event (before ++ after) =
      s.occurrences event before + t.occurrences event after := by
  induction before generalizing s with
  | nil =>
    cases h
    exact (Nat.zero_add _).symm
  | cons a rest ih =>
    obtain ⟨s', hstep, hrest⟩ := exec_cons h
    rw [List.cons_append, occurrences_cons hstep, occurrences_cons hstep, ih hrest, Nat.add_assoc]

/-- What does not happen over a run happens neither at its first step nor later. -/
theorem occurrences_cons_eq_zero {a : Action α} {event : System α → Action α → System α → Bool}
    {rest : List (Action α)} (hstep : s.step a = some s')
    (h : s.occurrences event (a :: rest) = 0) :
    event s a s' = false ∧ s'.occurrences event rest = 0 := by
  rw [occurrences_cons hstep] at h
  cases hevent : event s a s' with
  | false => exact ⟨rfl, by omega⟩
  | true =>
    rw [hevent, Bool.toNat_true] at h
    omega

/-- What every step keeps, the run keeps. -/
theorem exec_keeps {P : System α → Prop} {actions : List (Action α)}
    (step : ∀ {s s' : System α} {a : Action α}, a ∈ actions → P s → s.step a = some s' → P s')
    (h : P s) (hrun : s.exec actions = some t) : P t := by
  induction actions generalizing s with
  | nil =>
    cases hrun
    exact h
  | cons a rest ih =>
    obtain ⟨s', hstep, hrest⟩ := exec_cons hrun
    exact ih (fun ha => step (List.mem_cons_of_mem _ ha)) (step List.mem_cons_self h hstep) hrest

/-- What every step keeps at which something does not happen, a run keeps at which it does not. -/
theorem exec_keeps_unless {P : System α → Prop} {event : System α → Action α → System α → Bool}
    {actions : List (Action α)}
    (step : ∀ {s s' : System α} {a : Action α}, P s → s.step a = some s' →
      event s a s' = false → P s')
    (h : P s) (hrun : s.exec actions = some t) (hnone : s.occurrences event actions = 0) : P t := by
  induction actions generalizing s with
  | nil =>
    cases hrun
    exact h
  | cons a rest ih =>
    obtain ⟨s', hstep, hrest⟩ := exec_cons hrun
    obtain ⟨hevent, hnone'⟩ := occurrences_cons_eq_zero hstep hnone
    exact ih (step h hstep hevent) hrest hnone'

/-- Two things of which neither happens over a run. -/
theorem occurrences_or_eq_zero {event event' : System α → Action α → System α → Bool}
    {actions : List (Action α)} (h : s.occurrences event actions = 0)
    (h' : s.occurrences event' actions = 0) :
    s.occurrences (fun s a t => event s a t || event' s a t) actions = 0 := by
  induction actions generalizing s with
  | nil => rfl
  | cons a rest ih =>
    cases hstep : s.step a with
    | none => rw [occurrences, hstep]
    | some s' =>
      obtain ⟨hevent, hrest⟩ := occurrences_cons_eq_zero hstep h
      obtain ⟨hevent', hrest'⟩ := occurrences_cons_eq_zero hstep h'
      rw [occurrences_cons hstep, hevent, hevent', ih hrest hrest']
      rfl

/-- What no step does in certain states, which every step keeps, happens at no step of a run. -/
theorem occurrences_eq_zero {P : System α → Prop}
    {event : System α → Action α → System α → Bool}
    (step : ∀ {s s' : System α} {a : Action α}, P s → s.step a = some s' →
      event s a s' = false ∧ P s') (h : P s) (actions : List (Action α)) :
    s.occurrences event actions = 0 := by
  induction actions generalizing s with
  | nil => rfl
  | cons a rest ih =>
    cases hstep : s.step a with
    | none => rw [occurrences, hstep]
    | some s' =>
      obtain ⟨hevent, hkept⟩ := step h hstep
      rw [occurrences_cons hstep, hevent, ih hkept]
      rfl

theorem Reachable.exec {actions : List (Action α)} (h : Reachable s)
    (he : s.exec actions = some t) : Reachable t :=
  exec_keeps (fun _ h hstep => h.step _ hstep) h he

/-- What every move brings about, the step does, if it does not depend on what is only counted or
reported. -/
theorem step_of_move {P : System α → Prop} {a : Action α} (books : ∀ u : System α, P u = P u.core)
    (move : ∀ {t : System α}, Move s a t → P t) (hstep : s.step a = some s') : P s' := by
  obtain ⟨t, hmove, hcore⟩ := step_move hstep
  exact of_core books hcore (move hmove)

theorem step_name {a : Action α} (hstep : s.step a = some s') : s'.name = s.name :=
  step_of_move (P := fun s' => s'.name = s.name) (fun _ => rfl) Move.name hstep

theorem exec_name {actions : List (Action α)} (hrun : s.exec actions = some t) :
    t.name = s.name :=
  exec_keeps (P := fun t => t.name = s.name) (fun _ h hstep => (step_name hstep).trans h) rfl hrun

/-- What holds at the start and is kept by every move holds in every reachable state, if it does not
depend on what is only counted or reported. -/
theorem Reachable.of_moves {P : System α → Prop} (books : ∀ u : System α, P u = P u.core)
    (initial : ∀ host name config clockEnd now, P (.initial host name config clockEnd now))
    (move : ∀ {s t : System α} {a : Action α}, Reachable s → P s → Move s a t → P t)
    (h : Reachable s) : P s := by
  induction h with
  | initial host name config clockEnd now => exact initial host name config clockEnd now
  | step a hs hstep ih => exact step_of_move books (fun hmove => move hs ih hmove) hstep

end TaskScheduler.System
