import EdgeSieve.Survey
import EdgeSieve.Proofs.Options.Outcome
import EdgeSieve.Proofs.Sieve.Scanning

namespace EdgeSieve

open ClassName

structure Options.Scans (o : Options) (known : Catalogue) (a : Archive) : Prop where
  module : a.module.isSystem = false ∨ (∃ p ∈ o.systemModules, p.matchesAll a.module.name = true) ∨
    o.systemModules = none ∧ o.RequiresSystem ∧
      Pattern.systemNames.matchesAll a.module.name = true
  included : ∀ p ∈ o.included, a.Holds p
  internals : o.included = none → o.findInternals = true → ∃ entry ∈ a.entries,
    dots entry ≠ Sieve.descriptor ∧ '\n' ∉ entry.toList
  sought : o.included = none → o.findInternals = false →
    o.regex.isSome = true ∨ o.targets known ≠ []

namespace Options

instance (o : Options) (known : Catalogue) (a : Archive) : Decidable (o.Scans known a) :=
  decidable_of_iff (_ ∧ _ ∧ _ ∧ _) ⟨fun h => ⟨h.1, h.2.1, h.2.2.1, h.2.2.2⟩,
    fun h => ⟨h.module, h.included, h.internals, h.sought⟩⟩

variable {o : Options}

theorem holds_scanned_iff {a : Archive} : (∀ p ∈ o.scanned, a.Holds p) ↔
    (∀ p ∈ o.included, a.Holds p) ∧
      (o.included = none → o.findInternals = true → ∃ entry ∈ a.entries,
        dots entry ≠ Sieve.descriptor ∧ '\n' ∉ entry.toList) := by
  unfold scanned
  cases o.included with
  | some p => simp
  | none => cases o.findInternals <;> simp [Archive.Holds, Pattern.matchesAll_anything, newline_mem_dots]

theorem scanned_eq_none_iff : o.scanned = none ↔ o.included = none ∧ o.findInternals = false := by
  unfold scanned
  cases o.included <;> simp

end Options

theorem Sieve.Follows.scans_iff {s : Sieve} {o : Options} {known : Catalogue}
    (h : s.Follows o known) {a : Archive} :
    s.includesModule a = true ∧ s.matchesArchive a = true ↔ o.Scans known a := by
  rw [includesModule_iff, matchesArchive_iff, h.included, h.systemModules, h.target.isSome_iff,
    Options.systemPattern_matches_iff, Options.holds_scanned_iff, Options.scanned_eq_none_iff,
    and_imp]
  constructor
  · intro scans
    obtain ⟨module, ⟨included, internals⟩, sought⟩ := scans
    exact ⟨module, included, internals, sought⟩
  · intro scans
    exact ⟨scans.module, ⟨scans.included, scans.internals⟩, scans.sought⟩

/-- The archives that are scanned at once are those that options have scanned, in order. There are
none if options single out no classes and look for neither internals nor targets. -/
theorem roots_eq_filter_scans (o : Options) (known : Catalogue) (s : Sieve)
    (archives : List Placed) (made : (o.sieve known).outcome = .ok s) :
    s.roots archives = archives.filter (fun a => o.Scans known a.archive) ∧
      (o.included = none → o.findInternals = false → o.regex = none → o.targets known = [] →
        s.roots archives = []) := by
  have follows : s.Follows o known := (Options.sieve_ok_iff_follows.mp made).2
  have selected : s.roots archives = archives.filter (fun a => o.Scans known a.archive) := by
    apply List.filter_congr
    intro a _
    rw [Bool.eq_iff_iff, Bool.and_eq_true, decide_eq_true_eq, follows.scans_iff]
  refine ⟨selected, ?_⟩
  intro included internals regex targets
  rw [selected, List.filter_eq_nil_iff]
  intro a _
  rw [decide_eq_true_eq]
  intro scans
  cases scans.sought included internals with
  | inl some => simp [regex] at some
  | inr some => exact some targets

namespace Sample

def seeking : Options where
  requires := ["java.sql"]
  findInternals := true
  named := List.not_mem_nil

def seekingSieve : Sieve :=
  (seeking.gathered shelf).sieveWith (some (.packages ⟨.ofList ["java.sql"], false, by simp⟩))

def base : Archive :=
  ⟨"base.jar", .named "java.base" [] none, ["module-info.class", "java/lang/Object.class"]⟩

def descriptorOnly : Archive := ⟨"empty.jar", .unnamed, ["module-info.class"]⟩

end Sample

theorem roots_eq_filter_scans_sample :
    (Sample.seeking.sieve Sample.shelf).outcome = .ok Sample.seekingSieve ∧
      Sample.seekingSieve.roots [⟨0, Sample.base⟩, ⟨1, Sample.descriptorOnly⟩, ⟨2, Sample.jar⟩] =
        [⟨0, Sample.base⟩, ⟨2, Sample.jar⟩] := by
  have made : (Sample.seeking.sieve Sample.shelf).outcome = .ok Sample.seekingSieve := rfl
  refine ⟨made, ?_⟩
  rw [(roots_eq_filter_scans _ _ _ _ made).1]
  decide +kernel

end EdgeSieve
