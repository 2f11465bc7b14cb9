/-
  Runs of any system of steps, and what is noted about them.

  A run is `List.foldlM` of the step function. `notes` collects what is noted at the steps of a run.
  `run_induction`: what holds at the start, and at every step that prolongs a run, holds of a run
  and the state it ends in; `notes_concat` says what the last step adds.
-/
namespace TaskScheduler

variable {σ ι β : Type} {step : σ → ι → Option σ} {s t u : σ} {inputs : List ι} {a : ι}

/-- What is noted at the steps of a run, in their order. -/
def notes (step : σ → ι → Option σ) (note : σ → ι → σ → List β) (s : σ) : List ι → List β
  | [] => []
  | a :: rest =>
    match step s a with
    | some s' => note s a s' ++ notes step note s' rest
    | none => []

theorem notes_cons {s' : σ} (h : step s a = some s') (note : σ → ι → σ → List β) (rest : List ι) :
    notes step note s (a :: rest) = note s a s' ++ notes step note s' rest := by
  rw [notes, h]

/-- The last step of a run comes after the others. -/
theorem foldlM_concat :
    (inputs ++ [a]).foldlM step s = some u ↔
      ∃ t, inputs.foldlM step s = some t ∧ step t a = some u := by
  rw [List.foldlM_append, Option.bind_eq_bind, Option.bind_eq_some_iff]
  simp

theorem notes_concat (h : inputs.foldlM step s = some t) (hstep : step t a = some u)
    (note : σ → ι → σ → List β) :
    notes step note s (inputs ++ [a]) = notes step note s inputs ++ note t a u := by
  induction inputs generalizing s with
  | nil =>
    cases h
    rw [List.nil_append, notes_cons hstep]
    exact List.append_nil _
  | cons b rest ih =>
    obtain ⟨s', hfirst, hrest⟩ := Option.bind_eq_some_iff.mp h
    rw [List.cons_append, notes_cons hfirst, notes_cons hfirst, ih hrest, List.append_assoc]

/-- What holds at the start, and at every step that prolongs a run, holds of every run. -/
theorem run_induction {P : List ι → σ → Prop} (start : P [] s)
    (next : ∀ {before : List ι} {t : σ} {a : ι} {u : σ}, before.foldlM step s = some t →
      P before t → step t a = some u → P (before ++ [a]) u)
    (h : inputs.foldlM step s = some t) : P inputs t := by
  have hprefix : ∀ (before after : List ι) (v : σ), before.foldlM step s = some v → P before v →
      after.foldlM step v = some t → P (before ++ after) t := by
    intro before after
    induction after generalizing before with
    | nil =>
      intro v hbefore hv ht
      cases ht
      rw [List.append_nil]
      exact hv
    | cons a rest ih =>
      intro v hbefore hv ht
      obtain ⟨w, hstep, hrest⟩ := Option.bind_eq_some_iff.mp ht
      rw [← List.singleton_append, ← List.append_assoc]
      exact ih (before ++ [a]) w (foldlM_concat.mpr ⟨v, hbefore, hstep⟩) (next hbefore hv hstep)
        hrest
  exact hprefix [] inputs s rfl start h

end TaskScheduler
