import EdgeSieve.Proofs.Options.Outcome
import EdgeSieve.Proofs.Sieve.Scanning

namespace EdgeSieve

def Options.listing (o : Options) (packages : List String) (named : "" ∉ packages) : Options :=
  { o with
    packages := o.packages ++ packages
    requires := []
    named := by simp [o.named, named] }

/-- How a sieve from required modules is like one from their packages. Only the first looks at
archives of system modules because such a module is required. -/
structure Options.Alike (o : Options) (s t : Sieve) : Prop where
  fields : { t with requires := s.requires, systemModules := s.systemModules } = s
  accepts : ∀ e, s.accepts e = t.accepts e
  acceptsBetween : ∀ c origin target, s.acceptsBetween c origin target =
    t.acceptsBetween c origin target
  matchesClass : ∀ name, s.matchesClass name = t.matchesClass name
  matchesArchive : ∀ a, s.matchesArchive a = t.matchesArchive a
  wider : ∀ a, t.includesModule a = true → s.includesModule a = true
  differs : ∀ a, s.includesModule a = true ∧ t.includesModule a = false ↔
    a.module.isSystem = true ∧ Pattern.systemNames.matchesAll a.module.name = true ∧
      o.systemModules = none ∧ o.RequiresSystem

namespace Sieve

def unrequired (s : Sieve) (systemModules : Option Pattern) : Sieve :=
  { s with requires := ∅, systemModules := systemModules }

namespace Follows

variable {s : Sieve} {o : Options} {known : Catalogue} (h : s.Follows o known)

include h

theorem listing {packages : List String} (named : "" ∉ packages)
    (same : ∀ package, package ∈ packages ↔ package ∈ known.packagesOf o.requires)
    (other : Catalogue) :
    (s.unrequired o.systemModules).Follows (o.listing packages named) other where
  target := by
    apply h.target.congr
    intro package
    simp [Options.targets, Options.listing, Catalogue.packagesOf, same]
  excluded := h.excluded
  drops := h.drops
  findInternals := h.findInternals
  included := h.included
  systemModules := by
    have unrequired : ¬(o.listing packages named).RequiresSystem := by
      simp [Options.RequiresSystem, Options.listing]
    rw [Options.systemPattern, if_neg unrequired, Option.or_none]
    rfl
  requires := rfl

theorem includesModule_iff_unrequired {a : Archive} : s.includesModule a = true ↔
    (s.unrequired o.systemModules).includesModule a = true ∨
      o.systemModules = none ∧ o.RequiresSystem ∧
        Pattern.systemNames.matchesAll a.module.name = true := by
  rw [Sieve.includesModule_iff, Sieve.includesModule_iff, h.systemModules,
    Options.systemPattern_matches_iff, or_assoc]
  rfl

theorem alike : o.Alike s (s.unrequired o.systemModules) where
  fields := rfl
  accepts _ := rfl
  acceptsBetween _ _ _ := rfl
  matchesClass _ := rfl
  matchesArchive _ := rfl
  wider a included := h.includesModule_iff_unrequired.mpr (Or.inl included)
  differs a := by
    constructor
    · intro differ
      obtain ⟨included, refused⟩ := differ
      obtain ⟨unset, required, named⟩ :=
        (h.includesModule_iff_unrequired.mp included).resolve_left (Bool.not_eq_true _ ▸ refused)
      have system : a.module.isSystem = true := by
        cases system : a.module.isSystem with
        | true => rfl
        | false => simp [Sieve.includesModule, unrequired, system] at refused
      exact ⟨system, named, unset, required⟩
    · intro differ
      obtain ⟨system, named, unset, required⟩ := differ
      refine ⟨h.includesModule_iff_unrequired.mpr (Or.inr ⟨unset, required, named⟩), ?_⟩
      simp [Sieve.includesModule, unrequired, system, unset]

end Follows

end Sieve

/-- Requiring known modules, all of whose packages have names, does what listing these packages
does, in any order and number and whatever other modules are known. -/
theorem requiring_alike_listing (o : Options) (known other : Catalogue) (packages : List String)
    (named : "" ∉ packages) (knows : known.Knows o.requires)
    (same : ∀ package, package ∈ packages ↔
      ∃ name ∈ o.requires, ∃ listed ∈ known.packages? name, package ∈ listed) :
    ∃ s t, (o.sieve known).outcome = .ok s ∧
      ((o.listing packages named).sieve other).outcome = .ok t ∧ o.Alike s t := by
  obtain ⟨s, made⟩ := Options.exists_sieve_iff.mpr
    ⟨knows, fun _ unnamed => named ((same "").mpr unnamed)⟩
  have follows : s.Follows o known := (Options.sieve_ok_iff_follows.mp made).2
  have listing := follows.listing named
    (fun package => (same package).trans Catalogue.mem_packagesOf.symm) other
  refine ⟨s, s.unrequired o.systemModules, made, ?_, follows.alike⟩
  exact Options.sieve_ok_iff_follows.mpr ⟨List.forall_mem_nil _, listing⟩

namespace Sample

def querying : Options where
  requires := ["java.sql"]
  named := List.not_mem_nil

def driver : Archive := ⟨"driver.jar", .named "java.sql.driver" [] none, []⟩

end Sample

theorem requiring_alike_listing_sample : "" ∉ ["java.sql", "java.sql"] ∧
    Sample.shelf.Knows Sample.querying.requires ∧
    ∃ s t, (Sample.querying.sieve Sample.shelf).outcome = .ok s ∧
      ((Sample.querying.listing ["java.sql", "java.sql"] (by decide)).sieve ∅).outcome = .ok t ∧
      s.includesModule Sample.driver = true ∧ t.includesModule Sample.driver = false := by
  have knows : Sample.shelf.Knows Sample.querying.requires := List.forall_mem_singleton.mpr rfl
  have same : ∀ package, package ∈ ["java.sql", "java.sql"] ↔
      ∃ name ∈ Sample.querying.requires, ∃ listed ∈ Sample.shelf.packages? name,
        package ∈ listed := by
    intro package
    simp [Sample.querying, show Sample.shelf.packages? "java.sql" = some ["java.sql"] from rfl]
  obtain ⟨s, t, made, listed, alike⟩ := requiring_alike_listing Sample.querying Sample.shelf ∅
    ["java.sql", "java.sql"] (by decide) knows same
  refine ⟨by decide, knows, s, t, made, listed, ?_⟩
  exact (alike.differs Sample.driver).mpr (by decide +kernel)

end EdgeSieve
