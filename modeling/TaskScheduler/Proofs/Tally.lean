/-
  How many members of a list have a property, when one member is replaced, changed or added.

  `countP_set_add`, `countP_modify_add`, `count_cons_add` and `count_concat_add` are stated as sums,
  without subtraction, so that `omega` can use them as they are.
-/
namespace TaskScheduler

variable {β : Type}

theorem countP_set_add {l : List β} {i : Nat} {a : β} (h : l[i]? = some a) (b : β)
    (f : β → Bool) : (l.set i b).countP f + (f a).toNat = l.countP f + (f b).toNat := by
  induction l generalizing i with
  | nil => simp at h
  | cons c l ih =>
    cases i with
    | zero =>
      obtain rfl : c = a := by simpa using h
      rw [List.set_cons_zero, List.countP_cons, List.countP_cons]
      cases hc : f c <;> cases hb : f b <;> simp
    | succ i =>
      have hi := ih (i := i) (by simpa using h)
      rw [List.set_cons_succ, List.countP_cons, List.countP_cons]
      omega

theorem modify_eq_set_of_getElem? {l : List β} {i : Nat} {a : β} (h : l[i]? = some a)
    (g : β → β) : l.modify i g = l.set i (g a) := by
  apply List.ext_getElem?
  intro j
  obtain ⟨hi, rfl⟩ := List.getElem?_eq_some_iff.mp h
  rw [List.getElem?_modify, List.getElem?_set]
  by_cases hij : i = j
  · subst hij
    simp [hi]
  · simp [hij]

theorem countP_modify_add {l : List β} {i : Nat} {a : β} (h : l[i]? = some a) (g : β → β)
    (f : β → Bool) : (l.modify i g).countP f + (f a).toNat = l.countP f + (f (g a)).toNat := by
  rw [modify_eq_set_of_getElem? h]
  exact countP_set_add h (g a) f

/-- A property that is the sum of two others is had as often as both together. -/
theorem countP_eq_add {f g k : β → Bool} (h : ∀ a, (f a).toNat = (g a).toNat + (k a).toNat)
    (l : List β) : l.countP f = l.countP g + l.countP k := by
  induction l with
  | nil => rfl
  | cons a l ih =>
    have ha := h a
    rw [List.countP_cons, List.countP_cons, List.countP_cons, ih]
    cases hf : f a <;> cases hg : g a <;> cases hk : k a <;> simp [hf, hg, hk] at ha ⊢ <;> omega

theorem countP_pos_of_getElem? {l : List β} {i : Nat} {a : β} {f : β → Bool}
    (h : l[i]? = some a) (hf : f a = true) : 0 < l.countP f :=
  List.countP_pos_iff.mpr ⟨a, List.mem_of_getElem? h, hf⟩

/-! ## Members of a list -/

theorem count_cons_add [BEq β] (l : List β) (b a : β) :
    (b :: l).count a = l.count a + (b == a).toNat := by
  rw [List.count_cons]
  cases b == a <;> rfl

theorem count_concat_add [BEq β] (l : List β) (b a : β) :
    (l ++ [b]).count a = l.count a + (b == a).toNat := by
  rw [List.count_append, List.count_singleton]
  cases b == a <;> rfl

end TaskScheduler
