import EdgeSieve.Criteria
import EdgeSieve.Proofs.NameSet

namespace EdgeSieve

inductive TargetOf (classes : Option Pattern) (names : List String) (nested : Bool) :
    Option TargetRule → Prop
  | classes {p : Pattern} : classes = some p → TargetOf classes names nested (some (.classes p))
  | packages {rule : PackageRule} : classes = none → names ≠ [] →
      (∀ name, name ∈ rule.packages ↔ name ∈ names) → rule.nested = nested →
      TargetOf classes names nested (some (.packages rule))
  | none : classes = none → names = [] → TargetOf classes names nested none

theorem PackageRule.ext {r q : PackageRule} (packages : r.packages = q.packages)
    (nested : r.nested = q.nested) : r = q := by
  cases r
  cases q
  cases packages
  cases nested
  rfl

namespace TargetOf

variable {classes : Option Pattern} {names others : List String} {nested : Bool}
  {target : Option TargetRule}

theorem isSome_iff (h : TargetOf classes names nested target) :
    target.isSome = true ↔ classes.isSome = true ∨ names ≠ [] := by
  cases h with
  | classes given => simp [given]
  | packages given some _ _ => simp [some]
  | none given empty => simp [given, empty]

theorem congr (h : TargetOf classes names nested target)
    (same : ∀ name, name ∈ names ↔ name ∈ others) : TargetOf classes others nested target := by
  have empty : names = [] ↔ others = [] := by
    simp only [List.eq_nil_iff_forall_not_mem, same]
  cases h with
  | classes given => exact .classes given
  | packages given some listed nested =>
    exact .packages given (mt empty.mpr some) (fun name => (listed name).trans (same name)) nested
  | none given none => exact .none given (empty.mp none)

theorem unique {other : Option TargetRule} (h : TargetOf classes names nested target)
    (g : TargetOf classes names nested other) : target = other := by
  cases h with
  | classes given =>
    cases g with
    | classes given' =>
      rw [given] at given'
      cases given'
      rfl
    | packages given' => simp [given] at given'
    | none given' => simp [given] at given'
  | @packages rule given some listed isNested =>
    cases g with
    | classes given' => simp [given] at given'
    | @packages rule' _ _ listed' isNested' =>
      have sets : rule.packages = rule'.packages :=
        NameSet.ext fun name => (listed name).trans (listed' name).symm
      rw [PackageRule.ext sets (isNested.trans isNested'.symm)]
    | none _ empty => exact absurd empty some
  | none given empty =>
    cases g with
    | classes given' => simp [given] at given'
    | packages _ some => exact absurd empty some
    | none => rfl

end TargetOf

namespace PackageRule

theorem ofSet_ok_iff {packages : NameSet} {nested : Bool} {rule : PackageRule} :
    ofSet packages nested = .ok rule ↔ rule.packages = packages ∧ rule.nested = nested := by
  unfold ofSet
  split
  · next unnamed =>
    constructor
    · intro h
      cases h
    · intro h
      exact absurd (h.1 ▸ unnamed) rule.named
  · cases rule
    simp [eq_comm]

theorem ofSet_error_iff {packages : NameSet} {nested : Bool} {fault : PackageFault} :
    ofSet packages nested = .error fault ↔ "" ∈ packages := by
  unfold ofSet
  cases fault
  split <;> simp [*]

end PackageRule

namespace Criteria

variable {c : Criteria} {names : List String}

theorem packages_isEmpty (h : c.packages = .ofList names) :
    c.packages.isEmpty = true ↔ names = [] := by
  rw [h, NameSet.isEmpty_ofList]

theorem targetRule_ok_iff (h : c.packages = .ofList names) {target : Option TargetRule} :
    c.targetRule = .ok target ↔ TargetOf c.classes names c.nested target := by
  constructor
  · intro made
    unfold targetRule at made
    split at made
    · next p classes =>
      cases made
      exact .classes classes
    · next classes =>
      split at made
      · next empty =>
        cases made
        exact .none classes ((packages_isEmpty h).mp empty)
      · next some =>
        cases ruled : PackageRule.ofSet c.packages c.nested with
        | error fault => simp [ruled, Except.map] at made
        | ok rule =>
          obtain ⟨packages, nested⟩ := PackageRule.ofSet_ok_iff.mp ruled
          simp only [ruled, Except.map, Except.ok.injEq] at made
          subst made
          apply TargetOf.packages classes
          · intro empty
            exact some ((packages_isEmpty h).mpr empty)
          · intro name
            rw [packages, h, NameSet.mem_ofList]
          · exact nested
  · intro target
    cases target with
    | classes classes => simp [targetRule, classes]
    | @packages rule classes some packages nested =>
      have nonempty : ¬c.packages.isEmpty = true := fun empty => some ((packages_isEmpty h).mp empty)
      have sets : rule.packages = c.packages := by
        apply NameSet.ext
        intro name
        rw [packages, h, NameSet.mem_ofList]
      have ruled : PackageRule.ofSet c.packages c.nested = .ok rule :=
        PackageRule.ofSet_ok_iff.mpr ⟨sets, nested⟩
      simp [targetRule, classes, nonempty, ruled, Except.map]
    | none classes empty => simp [targetRule, classes, (packages_isEmpty h).mpr empty]

theorem targetRule_error_iff (h : c.packages = .ofList names) {fault : PackageFault} :
    c.targetRule = .error fault ↔ c.classes = none ∧ "" ∈ names := by
  rw [← NameSet.mem_ofList, ← h]
  unfold targetRule
  cases c.classes with
  | some p => simp
  | none =>
    by_cases empty : c.packages.isEmpty = true
    · simp [empty, NameSet.isEmpty_iff.mp empty]
    · cases ruled : PackageRule.ofSet c.packages c.nested with
      | error fault' =>
        cases fault
        cases fault'
        simp [empty, Except.map, PackageRule.ofSet_error_iff.mp ruled]
      | ok rule =>
        obtain ⟨packages, _⟩ := PackageRule.ofSet_ok_iff.mp ruled
        have named : ¬"" ∈ c.packages := packages ▸ rule.named
        simp [empty, Except.map, named]

theorem notices_eq (h : c.packages = .ofList names) :
    c.notices = if c.classes.isSome = true ∧ names ≠ [] then [.overridden names.dedup.length]
      else [] := by
  have size : c.packages.size = names.dedup.length := by
    rw [h, NameSet.size_ofList]
  simp only [notices, size, Bool.and_eq_true, Bool.not_eq_true', ne_eq, ← packages_isEmpty h,
    Bool.not_eq_true]

theorem sieve_ok_iff {s : Sieve} :
    c.sieve = .ok s ↔ ∃ target, c.targetRule = .ok target ∧ c.sieveWith target = s := by
  unfold sieve
  cases c.targetRule <;> simp [Except.map]

theorem sieve_ok_iff_parts {s : Sieve} : c.sieve = .ok s ↔
    c.targetRule = .ok s.target ∧ s.excluded = c.excluded ∧
      (s.dropSamePackage, s.dropSameArchive) = (c.dropSamePackage, c.dropSameArchive) ∧
      s.findInternals = c.findInternals ∧ s.included = c.included ∧
      s.systemModules = c.systemPattern ∧ s.requires = c.requires := by
  rw [sieve_ok_iff]
  constructor
  · intro made
    obtain ⟨target, ruled, rfl⟩ := made
    exact ⟨ruled, rfl, rfl, rfl, rfl, rfl, rfl⟩
  · intro parts
    obtain ⟨ruled, excluded, drops, findInternals, included, systemModules, requires⟩ := parts
    obtain ⟨package, archive⟩ := Prod.mk.inj drops
    refine ⟨s.target, ruled, ?_⟩
    simp only [sieveWith, ← excluded, ← package, ← archive, ← findInternals, ← included,
      ← systemModules, ← requires]

theorem sieve_error_iff {fault : PackageFault} :
    c.sieve = .error fault ↔ c.targetRule = .error fault := by
  unfold sieve
  cases c.targetRule <;> simp [Except.map]

end Criteria

end EdgeSieve
