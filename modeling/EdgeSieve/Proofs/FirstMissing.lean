namespace EdgeSieve

theorem found_or_first_missing {α β : Type} (look : α → Option β) (xs : List α) :
    (∀ x ∈ xs, (look x).isSome = true) ∨ ∃ before x after, xs = before ++ x :: after ∧
      (∀ y ∈ before, (look y).isSome = true) ∧ look x = none := by
  induction xs with
  | nil => simp
  | cons x xs ih =>
    cases missing : look x with
    | none => exact Or.inr ⟨[], x, xs, rfl, by simp, missing⟩
    | some b =>
      have found : (look x).isSome = true := by simp [missing]
      cases ih with
      | inl later => exact Or.inl (List.forall_mem_cons.mpr ⟨found, later⟩)
      | inr later =>
        obtain ⟨before, y, after, split, earlier, missing⟩ := later
        exact Or.inr ⟨x :: before, y, after, congrArg (x :: ·) split,
          List.forall_mem_cons.mpr ⟨found, earlier⟩, missing⟩

end EdgeSieve
