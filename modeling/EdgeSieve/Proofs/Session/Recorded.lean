import EdgeSieve.Session
import EdgeSieve.Proofs.Criteria.History

namespace Except

variable {ε α β : Type} {x : Except ε α} {f : α → β}

end Except

namespace EdgeSieve

namespace Pattern

variable {table : CharNames} {text : Option String}

end Pattern

namespace Setting

variable {P Q : Type} {table : CharNames} {s : Setting String}

def map (f : P → Q) : Setting P → Setting Q
  | .packages names => .packages names
  | .nested b => .nested b
  | .classes p => .classes (p.map f)
  | .excluded p => .excluded (p.map f)
  | .dropSame package archive => .dropSame package archive
  | .dropBoth => .dropBoth
  | .requires name names => .requires name names
  | .findInternals b => .findInternals b
  | .included p => .included (p.map f)
  | .systemModules p => .systemModules (p.map f)
  | .considered name => .considered name

end Setting

def Step.recorded? (table : CharNames) : Step → Option (Setting Pattern)
  | .set s => (s.read table).toOption
  | .ask _ => none

def recorded (table : CharNames) (steps : List Step) : History :=
  steps.filterMap (Step.recorded? table)

variable {table : CharNames}

theorem recorded_cons (step : Step) (steps : List Step) :
    recorded table (step :: steps) = (step.recorded? table).toList ++ recorded table steps := by
  cases h : step.recorded? table <;> simp [recorded, h]

end EdgeSieve
