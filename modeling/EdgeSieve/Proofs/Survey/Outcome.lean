import EdgeSieve.Proofs.Survey.Lookup

namespace EdgeSieve

open Edge

namespace Sieve

variable (s : Sieve) {locate : Locator} {edges : List Edge}

theorem survey_of_located (h : ∀ e ∈ s.keep edges, e.Located locate) :
    s.survey locate edges =
      let accepted := (s.keep edges).filter (s.joins locate)
      let counts : Counts := ⟨edges.length, (s.keep edges).length, accepted.length⟩
      ⟨.ok ⟨accepted, counts⟩, (allEnds (s.keep edges)).map End.name, [.surveyed counts]⟩ := by
  simp only [survey, s.sift_of_located h]

theorem survey_of_missing {before : List End} {x : End}
    (h : FirstMissing locate (s.keep edges) before x) :
    s.survey locate edges = ⟨.error x.unresolved, (before ++ [x]).map End.name, []⟩ := by
  simp only [survey, s.sift_of_missing h]

theorem survey_outcome : (s.survey locate edges).outcome =
    (s.sift locate (s.keep edges)).outcome.map fun accepted =>
      ⟨accepted, ⟨edges.length, (s.keep edges).length, accepted.length⟩⟩ := by
  simp only [survey]
  cases (s.sift locate (s.keep edges)).outcome <;> rfl

theorem survey_ok_iff :
    (∃ report, (s.survey locate edges).outcome = .ok report) ↔
      ∀ e ∈ s.keep edges, e.Located locate := by
  rw [← s.sift_ok_iff, survey_outcome]
  cases (s.sift locate (s.keep edges)).outcome <;> simp [Except.map]

theorem edges_of_survey_ok {report : Report} (h : (s.survey locate edges).outcome = .ok report) :
    report.edges = (s.keep edges).filter (s.joins locate) := by
  rw [s.survey_of_located (s.survey_ok_iff.mp ⟨report, h⟩)] at h
  cases h
  rfl

theorem survey_error_iff {fault : Unresolved} :
    (s.survey locate edges).outcome = .error fault ↔
      ∃ before x, FirstMissing locate (s.keep edges) before x ∧ fault = x.unresolved := by
  constructor
  · intro stopped
    cases located_or_missing locate (s.keep edges) with
    | inl located => simp [s.survey_of_located located] at stopped
    | inr missing =>
      obtain ⟨before, x, missing⟩ := missing
      rw [s.survey_of_missing missing] at stopped
      cases stopped
      exact ⟨before, x, missing, rfl⟩
  · intro h
    obtain ⟨before, x, missing, rfl⟩ := h
    rw [s.survey_of_missing missing]

theorem survey_congr {s t : Sieve} (kept : s.keep edges = t.keep edges)
    (joined : ∀ e, s.joins locate e = t.joins locate e) :
    s.survey locate edges = t.survey locate edges := by
  cases located_or_missing locate (s.keep edges) with
  | inl located =>
    rw [s.survey_of_located located, t.survey_of_located (kept ▸ located), kept, funext joined]
  | inr missing =>
    obtain ⟨before, x, missing⟩ := missing
    rw [s.survey_of_missing missing, t.survey_of_missing (kept ▸ missing)]

theorem sift_congr {other : Locator}
    (same : ∀ e ∈ edges, other e.origin = locate e.origin ∧ other e.target = locate e.target) :
    s.sift other edges = s.sift locate edges := by
  induction edges with
  | nil => rfl
  | cons e edges ih =>
    obtain ⟨⟨origin, target⟩, later⟩ := List.forall_mem_cons.mp same
    simp only [sift, origin, target, ih later]

end Sieve

structure Completed (s : Sieve) (locate : Locator) (edges : List Edge) (run : Surveyed)
    (report : Report) : Prop where
  kept : report.edges = (edges.filter s.accepts).filter (s.joins locate)
  counts : report.counts = ⟨edges.length, (edges.filter s.accepts).length, report.edges.length⟩
  decreasing : report.counts.afterArchives ≤ report.counts.afterEdges ∧
    report.counts.afterEdges ≤ report.counts.total
  asked : run.asked = (allEnds (edges.filter s.accepts)).map End.name
  noted : run.notices = [.surveyed report.counts]
  severity : (Notice.surveyed report.counts).severity = .info

structure Stopped (s : Sieve) (locate : Locator) (edges : List Edge) (run : Surveyed)
    (fault : Unresolved) : Prop where
  missing : ∃ before x, FirstMissing locate (edges.filter s.accepts) before x ∧
    fault = ⟨x.name.dotted, x.role⟩ ∧ run.asked = (before ++ [x]).map End.name
  silent : run.notices = []

theorem survey_completed_or_stopped (s : Sieve) (locate : Locator) (edges : List Edge) :
    ((∃ report, (s.survey locate edges).outcome = .ok report) ↔
        ∀ e ∈ edges.filter s.accepts, e.Located locate) ∧
      (∀ report, (s.survey locate edges).outcome = .ok report →
        Completed s locate edges (s.survey locate edges) report) ∧
      (∀ fault, (s.survey locate edges).outcome = .error fault →
        Stopped s locate edges (s.survey locate edges) fault) ∧
      ∀ other : Locator, (∀ e ∈ edges.filter s.accepts,
          other e.origin = locate e.origin ∧ other e.target = locate e.target) →
        s.survey other edges = s.survey locate edges := by
  refine ⟨s.survey_ok_iff, ?_, ?_, ?_⟩
  · intro report ok
    have located : ∀ e ∈ s.keep edges, e.Located locate := s.survey_ok_iff.mp ⟨report, ok⟩
    rw [s.survey_of_located located] at ok ⊢
    cases ok
    exact {
      kept := rfl
      counts := rfl
      decreasing := ⟨List.length_filter_le _ _, List.length_filter_le _ _⟩
      asked := rfl
      noted := rfl
      severity := rfl }
  · intro fault stopped
    obtain ⟨before, x, missing, rfl⟩ := s.survey_error_iff.mp stopped
    rw [s.survey_of_missing missing]
    exact { missing := ⟨before, x, missing, rfl, rfl⟩, silent := rfl }
  · intro other same
    have sifted : s.sift other (s.keep edges) = s.sift locate (s.keep edges) := s.sift_congr same
    simp only [Sieve.survey, sifted]

namespace Sample

def locate : Locator := fun c =>
  if c.package = "app" then some ⟨0, ⟨"app.jar", .unnamed, []⟩⟩
  else if c.package = "sun.sql" then some ⟨1, ⟨"sql.jar", .named "java.sql" ["java.sql"] none, []⟩⟩
  else none

def inward : Edge := ⟨⟨"app/Main"⟩, ⟨"sun/sql/Pool"⟩⟩

def lost : Edge := ⟨⟨"lost/A"⟩, ⟨"gone/B"⟩⟩

def edges : List Edge := [⟨⟨"lost/A"⟩, ⟨"lost/B"⟩⟩, inward, ⟨⟨"app/Main"⟩, ⟨"app/Log"⟩⟩, inward]

theorem joined_inward : [inward, inward].filter (Sieve.standard.joins locate) =
    [inward, inward] := by decide +kernel

theorem survey_edges : Sieve.standard.survey locate edges =
    ⟨.ok ⟨[inward, inward], ⟨4, 2, 2⟩⟩, (allEnds [inward, inward]).map End.name,
      [.surveyed ⟨4, 2, 2⟩]⟩ := by
  have kept : Sieve.standard.keep edges = [inward, inward] := by decide +kernel
  have located : ∀ e ∈ Sieve.standard.keep edges, e.Located locate := by decide +kernel
  rw [Sieve.survey_of_located _ located, kept, joined_inward]
  rfl

theorem survey_edges_lost : Sieve.standard.survey locate (edges ++ [lost]) =
    ⟨.error ⟨"lost.A", "origin"⟩, (allEnds [inward, inward]).map End.name ++ [⟨"lost/A"⟩], []⟩ := by
  have missing : FirstMissing locate (Sieve.standard.keep (edges ++ [lost]))
      (allEnds [inward, inward]) ⟨lost.origin, "origin"⟩ := {
    split := ⟨[⟨lost.target, "target"⟩], by decide +kernel⟩
    found := by decide +kernel
    missing := by decide +kernel }
  have told : lost.origin.dotted = "lost.A" := by decide +kernel
  rw [Sieve.survey_of_missing _ missing, End.unresolved, told]
  rfl

end Sample

theorem survey_completed_and_stopped_sample :
    (∃ report, (Sieve.standard.survey Sample.locate Sample.edges).outcome = .ok report ∧
        Completed .standard Sample.locate Sample.edges
          (Sieve.standard.survey Sample.locate Sample.edges) report) ∧
      ∃ fault, (Sieve.standard.survey Sample.locate (Sample.edges ++ [Sample.lost])).outcome =
          .error fault ∧
        Stopped .standard Sample.locate (Sample.edges ++ [Sample.lost])
          (Sieve.standard.survey Sample.locate (Sample.edges ++ [Sample.lost])) fault := by
  constructor
  · have whole := congrArg Surveyed.outcome Sample.survey_edges
    exact ⟨_, whole, (survey_completed_or_stopped _ _ _).2.1 _ whole⟩
  · have broken := congrArg Surveyed.outcome Sample.survey_edges_lost
    exact ⟨_, broken, (survey_completed_or_stopped _ _ _).2.2.1 _ broken⟩

end EdgeSieve
