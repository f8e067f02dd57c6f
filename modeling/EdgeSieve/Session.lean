import EdgeSieve.Criteria

namespace EdgeSieve

inductive Question : Type
  | accepts : Edge → Question
  | acceptsBetween : Edge → (origin target : Placed) → Question
  | matchesClass : String → Question
  | matchesArchive : Archive → Question
  | includesModule : Archive → Question
  deriving DecidableEq

def Sieve.answer (s : Sieve) : Question → Bool
  | .accepts e => s.accepts e
  | .acceptsBetween e origin target => s.acceptsBetween e.target origin target
  | .matchesClass name => s.matchesClass name
  | .matchesArchive a => s.matchesArchive a
  | .includesModule a => s.includesModule a

inductive Step : Type
  | set : Setting String → Step
  | ask : Question → Step
  deriving DecidableEq

inductive Reply : Type
  | made : Sieve → (again : Bool) → Reply
  | answer : Bool → Reply
  deriving DecidableEq

namespace Criteria

variable (table : CharNames)

def after (c : Criteria) : Step → Criteria
  | .set s =>
    match s.read table with
    | .ok s => c.set s
    | .error _ => c
  | .ask _ => c

def makeTwice (c : Criteria) : Made SieveFault Reply :=
  match c.sieve, c.sieve with
  | .ok s, .ok t => ⟨.ok (.made s (decide (s = t))), c.notices ++ c.notices⟩
  | .error fault, _ => ⟨.error (.package fault), c.notices⟩
  | _, .error fault => ⟨.error (.package fault), c.notices ++ c.notices⟩

def reply (c : Criteria) : Step → Made SieveFault Reply
  | .set s =>
    match s.read table with
    | .ok s => (c.set s).makeTwice
    | .error fault => ⟨.error (.pattern fault), []⟩
  | .ask q =>
    match c.sieve with
    | .ok s => ⟨.ok (.answer (s.answer q)), c.notices⟩
    | .error fault => ⟨.error (.package fault), c.notices⟩

def replies : Criteria → List Step → List (Made SieveFault Reply)
  | _, [] => []
  | c, step :: rest => c.reply table step :: replies (c.after table step) rest

end Criteria

end EdgeSieve
