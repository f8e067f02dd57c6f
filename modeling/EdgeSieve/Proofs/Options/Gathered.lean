import EdgeSieve.Options.Basic
import EdgeSieve.Proofs.Criteria.Target
import EdgeSieve.Proofs.FirstMissing

namespace EdgeSieve

namespace Catalogue

def packagesOf (known : Catalogue) (names : List String) : List String :=
  names.flatMap fun name => (known.packages? name).getD []

def Knows (known : Catalogue) (names : List String) : Prop :=
  ∀ name ∈ names, (known.packages? name).isSome = true

theorem mem_packagesOf {known : Catalogue} {names : List String} {package : String} :
    package ∈ known.packagesOf names ↔
      ∃ name ∈ names, ∃ packages ∈ known.packages? name, package ∈ packages := by
  rw [packagesOf, List.mem_flatMap]
  apply exists_congr
  intro name
  apply and_congr_right
  intro _
  cases known.packages? name <;> simp

end Catalogue

namespace Options

def targets (o : Options) (known : Catalogue) : List String :=
  o.packages ++ known.packagesOf o.requires

def gathered (o : Options) (known : Catalogue) : Criteria where
  packages := .ofList (o.targets known)
  nested := o.nested
  classes := o.regex
  excluded := o.filterRegex
  dropSamePackage := (Mode.drops o.mode).1
  dropSameArchive := (Mode.drops o.mode).2
  requires := .ofList o.requires
  findInternals := o.findInternals
  included := o.scanned
  systemModules := o.systemModules
  considered := o.requires

def requirement (known : Catalogue) (name : String) : Setting Pattern :=
  .requires name ((known.packages? name).getD [])

theorem setAll_requirements (known : Catalogue) (names : List String) (c : Criteria) :
    c.setAll (names.map (requirement known)) =
      { c with
        packages := c.packages.insertAll (known.packagesOf names)
        requires := c.requires.insertAll names
        considered := c.considered ++ names } := by
  induction names generalizing c with
  | nil => simp [Criteria.setAll, Catalogue.packagesOf, NameSet.insertAll]
  | cons name names ih =>
    change (c.set (requirement known name)).setAll (names.map (requirement known)) = _
    rw [ih]
    simp [requirement, Criteria.set, Catalogue.packagesOf, NameSet.insertAll]

theorem requirements_of_knows {known : Catalogue} {names : List String} (h : known.Knows names) :
    requirements known names = .ok (names.map (requirement known)) := by
  induction names with
  | nil => rfl
  | cons name names ih =>
    obtain ⟨first, later⟩ := List.forall_mem_cons.mp h
    obtain ⟨packages, found⟩ := Option.isSome_iff_exists.mp first
    simp only [requirements, found, ih later, List.map_cons, requirement]
    rfl

theorem requirements_of_unknown {known : Catalogue} {before : List String} {name : String}
    {after : List String} (h : known.Knows before) (unknown : known.packages? name = none) :
    requirements known (before ++ name :: after) = .error ⟨name, known.size⟩ := by
  induction before with
  | nil => simp only [List.nil_append, requirements, unknown]
  | cons first before ih =>
    obtain ⟨first, later⟩ := List.forall_mem_cons.mp h
    obtain ⟨packages, found⟩ := Option.isSome_iff_exists.mp first
    simp only [List.cons_append, requirements, found, ih later]
    rfl

variable {o : Options} {known : Catalogue}

theorem criteria_of_knows (h : known.Knows o.requires) :
    o.criteria known = .ok (o.gathered known) := by
  have settled : Criteria.setAll {} (o.settings ++ o.requires.map (requirement known)) =
      o.gathered known := by
    rw [Criteria.setAll, List.foldl_append]
    change (Criteria.setAll {} o.settings).setAll _ = _
    rw [setAll_requirements]
    simp [settings, Criteria.setAll, Criteria.set, gathered, targets, NameSet.ofList,
      NameSet.insertAll]
  simp only [criteria, requirements_of_knows h, Except.map, settled]

theorem criteria_of_unknown {before : List String} {name : String} {after : List String}
    (split : o.requires = before ++ name :: after) (h : known.Knows before)
    (unknown : known.packages? name = none) :
    o.criteria known = .error ⟨name, known.size⟩ := by
  simp only [criteria, split, requirements_of_unknown h unknown, Except.map]

theorem sieve_of_knows (h : known.Knows o.requires) : o.sieve known =
    match (o.gathered known).sieve with
    | .error fault => ⟨.error (.package fault), (o.gathered known).notices⟩
    | .ok s => ⟨.ok s, (o.gathered known).notices ++ [.configured s.summary]⟩ := by
  cases made : (o.gathered known).sieve <;> simp only [sieve, criteria_of_knows h, made]

theorem sieve_of_unknown {before : List String} {name : String} {after : List String}
    (split : o.requires = before ++ name :: after) (h : known.Knows before)
    (unknown : known.packages? name = none) :
    o.sieve known = ⟨.error (.unknownModule ⟨name, known.size⟩), []⟩ := by
  simp only [sieve, criteria_of_unknown split h unknown]

theorem sieve_ok_iff {s : Sieve} : (o.sieve known).outcome = .ok s ↔
    known.Knows o.requires ∧ (o.gathered known).sieve = .ok s := by
  cases found_or_first_missing known.packages? o.requires with
  | inl found =>
    have knows : known.Knows o.requires := found
    rw [sieve_of_knows knows]
    cases (o.gathered known).sieve <;> simp [knows]
  | inr missing =>
    obtain ⟨before, name, after, split, found, unknown⟩ := missing
    rw [sieve_of_unknown split found unknown]
    constructor
    · intro h
      cases h
    · intro h
      have known : (known.packages? name).isSome = true := h.1 name (by simp [split])
      simp [unknown] at known

end Options

end EdgeSieve
