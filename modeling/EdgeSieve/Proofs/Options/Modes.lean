import EdgeSieve.Proofs.Options.Outcome
import EdgeSieve.Proofs.Sieve.Conditions
import EdgeSieve.Proofs.Survey.Outcome

namespace EdgeSieve

def Edge.Apart (locate : Locator) (e : Edge) : Prop :=
  ∃ origin ∈ locate e.origin, ∃ target ∈ locate e.target, origin.slot ≠ target.slot

instance (locate : Locator) (e : Edge) : Decidable (e.Apart locate) :=
  inferInstanceAs (Decidable (∃ origin ∈ locate e.origin, _))

def Options.withMode (o : Options) (m : Option Mode) : Options := { o with mode := m }

namespace Sieve

def withMode (s : Sieve) (m : Option Mode) : Sieve :=
  { s with dropSamePackage := (Mode.drops m).1, dropSameArchive := (Mode.drops m).2 }

variable (s : Sieve) (locate : Locator) (edges : List Edge)

theorem accepts_package (e : Edge) : (s.withMode (some .package)).accepts e =
    (decide (e.origin.package ≠ e.target.package) && (s.withMode (some .keep)).accepts e) := by
  rw [Bool.eq_iff_iff, Bool.and_eq_true, accepts_iff, accepts_iff, decide_eq_true_eq]
  simp [withMode, Mode.drops, and_left_comm]

theorem accepts_keep {m : Option Mode} {e : Edge} (h : (s.withMode m).accepts e = true) :
    (s.withMode (some .keep)).accepts e = true := by
  -- Unless all edges are kept, the first stage does what it does when a package is the unit.
  have package : (s.withMode (some .package)).accepts e = true →
      (s.withMode (some .keep)).accepts e = true := by
    rw [accepts_package, Bool.and_eq_true]
    exact And.right
  cases m with
  | none => exact package h
  | some m =>
    cases m with
    | keep => exact h
    | package => exact package h
    | archive => exact package h

theorem keep_package : (s.withMode (some .package)).keep edges =
    ((s.withMode (some .keep)).keep edges).filter
      (fun e => e.origin.package ≠ e.target.package) := by
  rw [keep, keep, List.filter_filter]
  apply List.filter_congr
  intro e _
  exact s.accepts_package e

theorem joins_archive (internals : s.findInternals = false) (e : Edge) :
    (s.withMode (some .archive)).joins locate e =
      (decide (e.Apart locate) && (s.withMode (some .package)).joins locate e) := by
  rw [Bool.eq_iff_iff, Bool.and_eq_true, decide_eq_true_eq]
  simp only [joins, Edge.Apart]
  cases locate e.origin <;> cases locate e.target <;>
    simp [acceptsBetween, withMode, Mode.drops, internals, Placed.same]

theorem survey_archive_of_internals (internals : s.findInternals = true) :
    (s.withMode (some .archive)).survey locate edges =
      (s.withMode (some .package)).survey locate edges := by
  apply survey_congr
  · rfl
  · intro e
    simp only [joins, acceptsBetween, withMode, internals, if_true]

end Sieve

structure ModeChain (internals : Bool) (locate : Locator) (run : Option Mode → Surveyed) : Prop where
  completes : (∃ report, (run (some .keep)).outcome = .ok report) →
    ∀ m, ∃ report, (run m).outcome = .ok report
  together : (∃ report, (run (some .package)).outcome = .ok report) ↔
    ∃ report, (run (some .archive)).outcome = .ok report
  faults : ∀ fault, (run (some .package)).outcome = .error fault ↔
    (run (some .archive)).outcome = .error fault
  unset : run none = run (some .archive)
  package : ∀ kept packaged, (run (some .keep)).outcome = .ok kept →
    (run (some .package)).outcome = .ok packaged →
    packaged.edges = kept.edges.filter (fun e => e.origin.package ≠ e.target.package)
  archive : internals = false → ∀ packaged archived,
    (run (some .package)).outcome = .ok packaged → (run (some .archive)).outcome = .ok archived →
    archived.edges = packaged.edges.filter (fun e => e.Apart locate)
  internals : internals = true → run (some .archive) = run (some .package)

theorem Sieve.modeChain (s : Sieve) (locate : Locator) (edges : List Edge) :
    ModeChain s.findInternals locate (fun m => (s.withMode m).survey locate edges) where
  completes := by
    intro h m
    rw [survey_ok_iff] at h ⊢
    intro e kept
    obtain ⟨given, accepted⟩ := List.mem_filter.mp kept
    exact h e (List.mem_filter.mpr ⟨given, s.accepts_keep accepted⟩)
  together := by
    rw [survey_ok_iff, survey_ok_iff]
    rfl
  faults := by
    intro fault
    rw [survey_error_iff, survey_error_iff]
    rfl
  unset := rfl
  package := by
    intro kept packaged hk hp
    rw [edges_of_survey_ok _ hk, edges_of_survey_ok _ hp, keep_package, List.filter_filter,
      List.filter_filter]
    apply List.filter_congr
    intro e _
    exact Bool.and_comm _ _
  archive := by
    intro internals packaged archived hp ha
    rw [edges_of_survey_ok _ hp, edges_of_survey_ok _ ha, List.filter_filter]
    apply List.filter_congr
    intro e _
    exact s.joins_archive locate internals e
  internals := s.survey_archive_of_internals locate edges

namespace Options

variable (o : Options) (known : Catalogue) (m : Option Mode)

theorem gathered_withMode_sieve : ((o.withMode m).gathered known).sieve =
    (o.gathered known).sieve.map (·.withMode m) := by
  change ((o.gathered known).targetRule).map _ = ((o.gathered known).targetRule.map _).map _
  cases (o.gathered known).targetRule <;> rfl

theorem sieve_withMode : ((o.withMode m).sieve known).outcome =
    (o.sieve known).outcome.map (·.withMode m) := by
  cases found_or_first_missing known.packages? o.requires with
  | inl knows =>
    rw [sieve_of_knows (o := o) knows, sieve_of_knows (o := o.withMode m) knows,
      gathered_withMode_sieve]
    cases (o.gathered known).sieve <;> rfl
  | inr missing =>
    obtain ⟨before, name, after, split, found, unknown⟩ := missing
    rw [sieve_of_unknown (o := o) split found unknown,
      sieve_of_unknown (o := o.withMode m) split found unknown]
    rfl

theorem findInternals_of_sieve_ok {o : Options} {known : Catalogue} {s : Sieve}
    (made : (o.sieve known).outcome = .ok s) : s.findInternals = o.findInternals :=
  (sieve_ok_iff_follows.mp made).2.findInternals

end Options

/-- Options that differ in their mode alone all fail for the same reason, or all give sieves, whose
surveys form a chain. -/
theorem modes_form_chain (o : Options) (known : Catalogue) (locate : Locator) (edges : List Edge) :
    (∃ fault, ∀ m, ((o.withMode m).sieve known).outcome = .error fault) ∨
      ∃ s : Option Mode → Sieve, (∀ m, ((o.withMode m).sieve known).outcome = .ok (s m)) ∧
        ModeChain o.findInternals locate (fun m => (s m).survey locate edges) := by
  cases made : (o.sieve known).outcome with
  | error fault =>
    left
    refine ⟨fault, fun m => ?_⟩
    rw [Options.sieve_withMode, made]
    rfl
  | ok s =>
    right
    refine ⟨s.withMode, fun m => ?_, ?_⟩
    · rw [Options.sieve_withMode, made]
      rfl
    · rw [← Options.findInternals_of_sieve_ok made]
      exact s.modeChain locate edges

end EdgeSieve
