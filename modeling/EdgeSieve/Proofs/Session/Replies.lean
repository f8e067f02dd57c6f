import EdgeSieve.Proofs.Criteria.Making
import EdgeSieve.Proofs.Session.Recorded

namespace EdgeSieve

namespace Criteria

variable (table : CharNames)

theorem after_eq (c : Criteria) (step : Step) :
    c.after table step = c.setAll (step.recorded? table).toList := by
  cases step with
  | set s => cases h : s.read table <;> simp [after, setAll, Step.recorded?, h, Except.toOption]
  | ask q => rfl

theorem foldl_after_eq (c : Criteria) (steps : List Step) :
    steps.foldl (after table) c = c.setAll (recorded table steps) := by
  induction steps generalizing c with
  | nil => rfl
  | cons step steps ih =>
    rw [List.foldl_cons, ih, after_eq, recorded_cons, setAll, setAll, setAll, List.foldl_append]

variable {table}

end Criteria

end EdgeSieve
