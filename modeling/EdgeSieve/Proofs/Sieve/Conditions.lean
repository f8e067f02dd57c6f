import EdgeSieve.Sieve
import EdgeSieve.Proofs.Criteria.Target

namespace EdgeSieve

def Covers (names : List String) (nested : Bool) (package : String) : Prop :=
  ∃ name ∈ names, package = name ∨ nested = true ∧ (name ++ ".").toList <+: package.toList

instance (names : List String) (nested : Bool) (package : String) :
    Decidable (Covers names nested package) :=
  inferInstanceAs (Decidable (∃ name ∈ names, _ ∨ _))

theorem Covers.congr {xs ys : List String} (same : ∀ name, name ∈ xs ↔ name ∈ ys) {nested : Bool}
    {package : String} : Covers xs nested package ↔ Covers ys nested package := by
  simp only [Covers, same]

theorem PackageRule.covers_iff {r : PackageRule} {package : String} :
    r.covers package = true ↔ Covers r.packages.toList r.nested package := by
  simp only [covers, NameSet.any, nestedIn, Bool.or_eq_true, Bool.and_eq_true, decide_eq_true_eq,
    List.any_eq_true, List.isPrefixOf_iff_prefix, NameSet.mem_def, Covers]
  constructor
  · intro h
    cases h with
    | inl listed => exact ⟨package, listed, Or.inl rfl⟩
    | inr deeper =>
      obtain ⟨nested, name, listed, begins⟩ := deeper
      exact ⟨name, listed, Or.inr ⟨nested, begins⟩⟩
  · intro h
    obtain ⟨name, listed, same | ⟨nested, begins⟩⟩ := h
    · exact Or.inl (same ▸ listed)
    · exact Or.inr ⟨nested, name, listed, begins⟩

structure Sought (classes : Option Pattern) (names : List String) (nested : Bool) (c : ClassName) :
    Prop where
  matching : ∀ p ∈ classes, p.matchesAll c.dotted = true
  covered : classes = none → names ≠ [] → Covers names nested c.package

instance (classes : Option Pattern) (names : List String) (nested : Bool) (c : ClassName) :
    Decidable (Sought classes names nested c) :=
  decidable_of_iff (_ ∧ _) ⟨fun h => ⟨h.1, h.2⟩, fun h => ⟨h.matching, h.covered⟩⟩

theorem TargetOf.all_accepts_iff {classes : Option Pattern} {names : List String} {nested : Bool}
    {target : Option TargetRule} (h : TargetOf classes names nested target) {c : ClassName} :
    target.all (·.accepts c) = true ↔ Sought classes names nested c := by
  cases h with
  | classes given =>
    subst given
    constructor
    · intro accepted
      exact ⟨by simpa [TargetRule.accepts] using accepted, by simp⟩
    · intro sought
      simpa [TargetRule.accepts] using sought.matching
  | packages given some same nested =>
    subst given nested
    constructor
    · intro accepted
      refine ⟨by simp, fun _ _ => ?_⟩
      exact (Covers.congr same).mp (PackageRule.covers_iff.mp accepted)
    · intro sought
      exact PackageRule.covers_iff.mpr ((Covers.congr same).mpr (sought.covered rfl some))
  | none given empty =>
    subst given
    exact iff_of_true rfl ⟨by simp, fun _ some => absurd empty some⟩

namespace Sieve

variable {s : Sieve}

theorem accepts_iff {e : Edge} : s.accepts e = true ↔
    e.origin ≠ e.target ∧ (s.dropSamePackage = true → e.origin.package ≠ e.target.package) ∧
      (∀ p ∈ s.excluded, p.matchesAll e.target.package = false) ∧
      s.target.all (·.accepts e.target) = true := by
  have excluded : (!s.excluded.any (·.matchesAll e.target.package)) = true ↔
      ∀ p ∈ s.excluded, p.matchesAll e.target.package = false := by
    cases s.excluded <;> simp
  have apart : (!(s.dropSamePackage && e.origin.package == e.target.package)) = true ↔
      (s.dropSamePackage = true → e.origin.package ≠ e.target.package) := by
    cases s.dropSamePackage <;> simp
  simp only [accepts, Bool.and_eq_true, excluded, apart, decide_eq_true_eq, and_assoc]

theorem acceptsBetween_iff {c : ClassName} {origin target : Placed} :
    s.acceptsBetween c origin target = true ↔
      (s.findInternals = true → origin.slot ≠ target.slot ∧
        (target.archive.module.isSystem = true ∨ target.archive.module.isPlatform = true) ∧
        c.package ∉ target.archive.module.exports) ∧
      (s.findInternals = false → s.dropSameArchive = true → origin.slot ≠ target.slot) := by
  unfold acceptsBetween
  cases s.findInternals <;> cases s.dropSameArchive <;>
    simp [Placed.same, ModuleInfo.isJdk, ModuleInfo.isExported, and_assoc]

end Sieve

end EdgeSieve
