import EdgeSieve.Criteria
import Mathlib.Data.List.Induction

namespace EdgeSieve

namespace Setting

variable {P : Type}

def nested? : Setting P → Option Bool
  | .nested b => some b
  | _ => none

def classes? : Setting P → Option (Option P)
  | .classes p => some p
  | _ => none

def excluded? : Setting P → Option (Option P)
  | .excluded p => some p
  | _ => none

def drops? : Setting P → Option (Bool × Bool)
  | .dropSame package archive => some (package, archive)
  | .dropBoth => some (true, true)
  | _ => none

def findInternals? : Setting P → Option Bool
  | .findInternals b => some b
  | _ => none

def included? : Setting P → Option (Option P)
  | .included p => some p
  | _ => none

def systemModules? : Setting P → Option (Option P)
  | .systemModules p => some p
  | _ => none

def addedPackages : Setting P → List String
  | .packages names => names
  | .requires _ names => names
  | _ => []

def addedModules : Setting P → List String
  | .requires name _ => [name]
  | _ => []

def addedNames : Setting P → List String
  | .requires name _ => [name]
  | .considered name => [name]
  | _ => []

end Setting

abbrev History := List (Setting Pattern)

namespace History

/-- What the last setting that has a say in something gave, and the usual value before that. -/
def latest (value : Setting Pattern → Option α) (usual : α) (history : History) : α :=
  (history.filterMap value).getLast?.getD usual

def packages (history : History) : List String := history.flatMap Setting.addedPackages

def modules (history : History) : List String := history.flatMap Setting.addedModules

def names (history : History) : List String := history.flatMap Setting.addedNames

theorem latest_concat (value : Setting Pattern → Option α) (usual : α) (history : History)
    (s : Setting Pattern) :
    latest value usual (history ++ [s]) = (value s).getD (latest value usual history) := by
  cases h : value s <;> simp [latest, h]

end History

open History

structure Criteria.Records (c : Criteria) (history : History) : Prop where
  nested : c.nested = latest Setting.nested? false history
  classes : c.classes = latest Setting.classes? none history
  excluded : c.excluded = latest Setting.excluded? none history
  drops : (c.dropSamePackage, c.dropSameArchive) = latest Setting.drops? (false, false) history
  findInternals : c.findInternals = latest Setting.findInternals? false history
  included : c.included = latest Setting.included? none history
  systemModules : c.systemModules = latest Setting.systemModules? none history
  packages : c.packages = .ofList history.packages
  requires : c.requires = .ofList history.modules
  considered : c.considered = history.names

namespace Criteria

variable (c : Criteria) (s : Setting Pattern)

theorem set_nested : (c.set s).nested = s.nested?.getD c.nested := by cases s <;> rfl

theorem set_classes : (c.set s).classes = s.classes?.getD c.classes := by cases s <;> rfl

theorem set_excluded : (c.set s).excluded = s.excluded?.getD c.excluded := by cases s <;> rfl

theorem set_drops : ((c.set s).dropSamePackage, (c.set s).dropSameArchive) =
    s.drops?.getD (c.dropSamePackage, c.dropSameArchive) := by cases s <;> rfl

theorem set_findInternals : (c.set s).findInternals = s.findInternals?.getD c.findInternals := by
  cases s <;> rfl

theorem set_included : (c.set s).included = s.included?.getD c.included := by cases s <;> rfl

theorem set_systemModules : (c.set s).systemModules = s.systemModules?.getD c.systemModules := by
  cases s <;> rfl

theorem set_packages : (c.set s).packages = c.packages.insertAll s.addedPackages := by
  cases s <;> rfl

theorem set_requires : (c.set s).requires = c.requires.insertAll s.addedModules := by
  cases s <;> rfl

theorem set_considered : (c.set s).considered = c.considered ++ s.addedNames := by
  cases s <;> simp [set, Setting.addedNames]

theorem records_nil : Criteria.Records {} [] where
  nested := rfl
  classes := rfl
  excluded := rfl
  drops := rfl
  findInternals := rfl
  included := rfl
  systemModules := rfl
  packages := rfl
  requires := rfl
  considered := rfl

variable {c : Criteria} {history : History}

theorem Records.set (h : c.Records history) (s : Setting Pattern) :
    (c.set s).Records (history ++ [s]) where
  nested := by rw [set_nested, latest_concat, h.nested]
  classes := by rw [set_classes, latest_concat, h.classes]
  excluded := by rw [set_excluded, latest_concat, h.excluded]
  drops := by rw [set_drops, latest_concat, h.drops]
  findInternals := by rw [set_findInternals, latest_concat, h.findInternals]
  included := by rw [set_included, latest_concat, h.included]
  systemModules := by rw [set_systemModules, latest_concat, h.systemModules]
  packages := by
    rw [set_packages, h.packages]
    simp [History.packages, NameSet.ofList, NameSet.insertAll]
  requires := by
    rw [set_requires, h.requires]
    simp [History.modules, NameSet.ofList, NameSet.insertAll]
  considered := by
    rw [set_considered, h.considered]
    simp [History.names]

theorem setAll_records (history : History) : (setAll {} history).Records history := by
  -- A history grows at its end, and so does the induction.
  induction history using List.reverseRecOn with
  | nil => exact records_nil
  | append_singleton history s ih =>
    rw [setAll, List.foldl_append]
    exact ih.set s

end Criteria

end EdgeSieve
