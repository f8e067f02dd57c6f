import EdgeSieve.Proofs.Options.Outcome
import EdgeSieve.Proofs.Sieve.Conditions
import EdgeSieve.Proofs.Survey.Outcome

namespace EdgeSieve

namespace Mode

theorem drops_fst_iff {m : Option Mode} : (drops m).1 = true ↔ m ≠ some .keep := by
  cases m with
  | none => simp [drops]
  | some m => cases m <;> simp [drops]

theorem drops_snd_iff {m : Option Mode} :
    (drops m).2 = true ↔ m = none ∨ m = some .archive := by
  cases m with
  | none => simp [drops]
  | some m => cases m <;> simp [drops]

end Mode

structure Options.Admits (o : Options) (c : ClassName) (origin target : Placed) : Prop where
  internals : o.findInternals = true → origin.slot ≠ target.slot ∧
    (target.archive.module.isSystem = true ∨ target.archive.module.isPlatform = true) ∧
    c.package ∉ target.archive.module.exports
  apart : o.findInternals = false → o.mode = none ∨ o.mode = some .archive →
    origin.slot ≠ target.slot

structure Options.Reports (o : Options) (known : Catalogue) (locate : Locator) (e : Edge) :
    Prop where
  joins : e.origin ≠ e.target
  apart : o.mode = some .keep ∨ e.origin.package ≠ e.target.package
  unfiltered : ∀ p ∈ o.filterRegex, p.matchesAll e.target.package = false
  sought : Sought o.regex (o.targets known) o.nested e.target
  admitted : ∃ origin ∈ locate e.origin, ∃ target ∈ locate e.target, o.Admits e.target origin target

namespace Options

instance (o : Options) (c : ClassName) (origin target : Placed) :
    Decidable (o.Admits c origin target) :=
  decidable_of_iff (_ ∧ _) ⟨fun h => ⟨h.1, h.2⟩, fun h => ⟨h.internals, h.apart⟩⟩

instance (o : Options) (known : Catalogue) (locate : Locator) (e : Edge) :
    Decidable (o.Reports known locate e) :=
  decidable_of_iff (_ ∧ _ ∧ _ ∧ _ ∧ _)
    ⟨fun h => ⟨h.1, h.2.1, h.2.2.1, h.2.2.2.1, h.2.2.2.2⟩,
      fun h => ⟨h.joins, h.apart, h.unfiltered, h.sought, h.admitted⟩⟩

variable {o : Options} {known : Catalogue} {s : Sieve}

theorem acceptsBetween_iff_admits (follows : s.Follows o known) {c : ClassName} {a b : Placed} :
    s.acceptsBetween c a b = true ↔ o.Admits c a b := by
  have archive : s.dropSameArchive = (Mode.drops o.mode).2 := congrArg Prod.snd follows.drops
  rw [Sieve.acceptsBetween_iff, follows.findInternals, archive, Mode.drops_snd_iff]
  exact ⟨fun h => ⟨h.1, h.2⟩, fun h => ⟨h.internals, h.apart⟩⟩

theorem keeps_iff_reports (made : (o.sieve known).outcome = .ok s) {locate : Locator} {e : Edge} :
    s.accepts e = true ∧ s.joins locate e = true ↔ o.Reports known locate e := by
  obtain ⟨_, follows⟩ := sieve_ok_iff_follows.mp made
  have sought := follows.target.all_accepts_iff (c := e.target)
  have package : s.dropSamePackage = (Mode.drops o.mode).1 := congrArg Prod.fst follows.drops
  have apart : (s.dropSamePackage = true → e.origin.package ≠ e.target.package) ↔
      (o.mode = some .keep ∨ e.origin.package ≠ e.target.package) := by
    rw [package, Mode.drops_fst_iff]
    by_cases keep : o.mode = some .keep <;> simp [keep]
  rw [Sieve.accepts_iff, Sieve.joins_iff, follows.excluded]
  simp only [acceptsBetween_iff_admits follows]
  constructor
  · intro h
    obtain ⟨⟨joins, packages, unfiltered, accepted⟩, admitted⟩ := h
    exact ⟨joins, apart.mp packages, unfiltered, sought.mp accepted, admitted⟩
  · intro h
    exact ⟨⟨h.joins, apart.mpr h.apart, h.unfiltered, sought.mpr h.sought⟩, h.admitted⟩

end Options

/-- A survey by options whose edges have all their ends in archives gives the edges to be reported,
in order and as often as they were given. -/
theorem survey_eq_filter_reports (o : Options) (known : Catalogue) (s : Sieve) (locate : Locator)
    (edges : List Edge) (made : (o.sieve known).outcome = .ok s)
    (found : ∀ e ∈ s.keep edges, e.Located locate) :
    ∃ report, (s.survey locate edges).outcome = .ok report ∧
      report.edges = edges.filter (fun e => o.Reports known locate e) := by
  refine ⟨_, by rw [s.survey_of_located found], ?_⟩
  rw [Sieve.keep, List.filter_filter]
  apply List.filter_congr
  intro e _
  rw [Bool.eq_iff_iff, Bool.and_eq_true, and_comm, Options.keeps_iff_reports made,
    decide_eq_true_eq]

namespace Sample

def options : Options where
  packages := ["sun"]
  requires := ["java.sql"]
  findInternals := true
  nested := true

def known : Catalogue := .ofList [("java.sql", ["java.sql"]), ("java.xml", ["java.xml"])]

def sieve : Sieve :=
  (options.gathered known).sieveWith (some (.packages ⟨.ofList ["java.sql", "sun"], true, by simp⟩))

end Sample

theorem survey_eq_filter_reports_sample :
    (Sample.options.sieve Sample.known).outcome = .ok Sample.sieve ∧
      (∀ e ∈ Sample.sieve.keep Sample.edges, e.Located Sample.locate) ∧
      ∃ report, (Sample.sieve.survey Sample.locate Sample.edges).outcome = .ok report ∧
        report.edges = Sample.edges.filter
          (fun e => Sample.options.Reports Sample.known Sample.locate e) := by
  have made : (Sample.options.sieve Sample.known).outcome = .ok Sample.sieve := rfl
  have kept : Sample.sieve.keep Sample.edges = [Sample.inward, Sample.inward] := by decide +kernel
  have found : ∀ e ∈ Sample.sieve.keep Sample.edges, e.Located Sample.locate := by
    have located : Sample.inward.Located Sample.locate := by decide +kernel
    simp [kept, located]
  exact ⟨made, found, survey_eq_filter_reports _ _ _ _ _ made found⟩

end EdgeSieve
