import EdgeSieve.Proofs.Criteria.History
import EdgeSieve.Proofs.Criteria.Target

namespace EdgeSieve

open History

namespace History

def classes (history : History) : Option Pattern := latest Setting.classes? none history

def nested (history : History) : Bool := latest Setting.nested? false history

def systemPattern (history : History) : Option Pattern :=
  match latest Setting.systemModules? none history with
  | some p => some p
  | none =>
    if ∃ name ∈ history.names, Pattern.systemNames.matchesAll name = true then some .systemNames
    else none

/-- Packages are looked for, since no pattern for classes wins over them, but one has no name. -/
def Refused (history : History) : Prop := history.classes = none ∧ "" ∈ history.packages

def notices (history : History) : List Notice :=
  if history.classes.isSome = true ∧ history.packages ≠ [] then
    [.overridden history.packages.dedup.length]
  else []

end History

structure Sieve.Fits (s : Sieve) (history : History) : Prop where
  target : TargetOf history.classes history.packages history.nested s.target
  excluded : s.excluded = latest Setting.excluded? none history
  drops : (s.dropSamePackage, s.dropSameArchive) = latest Setting.drops? (false, false) history
  findInternals : s.findInternals = latest Setting.findInternals? false history
  included : s.included = latest Setting.included? none history
  systemModules : s.systemModules = history.systemPattern
  requires : ∀ name, name ∈ s.requires ↔ name ∈ history.modules

theorem History.Refused.silent {history : History} (h : history.Refused) :
    history.notices = [] := by
  simp [notices, h.1]

namespace Criteria.Records

variable {c : Criteria} {history : History}

theorem targetRule_ok_iff (h : c.Records history) {target : Option TargetRule} :
    c.targetRule = .ok target ↔
      TargetOf history.classes history.packages history.nested target := by
  rw [Criteria.targetRule_ok_iff h.packages, h.classes, h.nested]
  rfl

theorem systemPattern_eq (h : c.Records history) : c.systemPattern = history.systemPattern := by
  unfold Criteria.systemPattern History.systemPattern
  rw [h.systemModules, h.considered]
  cases latest Setting.systemModules? none history with
  | none => simp
  | some p => rfl

theorem notices_eq (h : c.Records history) : c.notices = history.notices := by
  rw [Criteria.notices_eq h.packages, h.classes]
  rfl

theorem sieve_ok_iff (h : c.Records history) {s : Sieve} : c.sieve = .ok s ↔ s.Fits history := by
  have requires : s.requires = c.requires ↔ ∀ name, name ∈ s.requires ↔ name ∈ history.modules := by
    rw [h.requires]
    constructor
    · intro same name
      rw [same, NameSet.mem_ofList]
    · intro same
      exact NameSet.ext fun name => (same name).trans NameSet.mem_ofList.symm
  rw [Criteria.sieve_ok_iff_parts, h.targetRule_ok_iff, h.excluded, h.drops, h.findInternals,
    h.included, h.systemPattern_eq, requires]
  constructor
  · intro parts
    obtain ⟨target, excluded, drops, findInternals, included, systemModules, requires⟩ := parts
    exact ⟨target, excluded, drops, findInternals, included, systemModules, requires⟩
  · intro fits
    exact ⟨fits.target, fits.excluded, fits.drops, fits.findInternals, fits.included,
      fits.systemModules, fits.requires⟩

theorem sieve_error_iff (h : c.Records history) {fault : PackageFault} :
    c.sieve = .error fault ↔ history.Refused := by
  rw [Criteria.sieve_error_iff, targetRule_error_iff h.packages, h.classes]
  rfl

theorem exists_sieve_iff (h : c.Records history) :
    (∃ s, c.sieve = .ok s) ↔ ¬history.Refused := by
  cases made : c.sieve with
  | ok s =>
    refine iff_of_true ⟨s, rfl⟩ fun refused => ?_
    have failed : c.sieve = .error .emptyName := h.sieve_error_iff.mpr refused
    simp [made] at failed
  | error fault => simp [h.sieve_error_iff.mp made]

end Criteria.Records

end EdgeSieve
