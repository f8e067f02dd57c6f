import EdgeSieve.Proofs.Survey.Batches
import Mathlib.Data.List.Basic
import Mathlib.Data.List.TakeDrop

namespace EdgeSieve

open Edge

/-- A run over edges stops at the one with an index: it goes through the edges before that one, and
ends for an end of that edge, with or without the edges after it. -/
structure StopsAt {α : Type} (run : List Edge → Except Unresolved α) (edges : List Edge)
    (index : Nat) (fault : Unresolved) : Prop where
  through : ∃ result, run (edges.take index) = .ok result
  there : run (edges.take (index + 1)) = .error fault
  whole : run edges = .error fault
  told : ∃ e ∈ edges[index]?, fault = .origin e ∨ fault = .target e

namespace Edge

def fault (locate : Locator) (e : Edge) : Unresolved :=
  if (locate e.origin).isSome then .target e else .origin e

theorem fault_eq_or (locate : Locator) (e : Edge) :
    e.fault locate = .origin e ∨ e.fault locate = .target e := by
  unfold fault
  split
  · exact Or.inr rfl
  · exact Or.inl rfl

theorem located_or_first_lost (locate : Locator) (p : Edge → Bool) (edges : List Edge) :
    (∀ e ∈ edges, p e = true → e.Located locate) ∨
      ∃ before e later, edges = before ++ e :: later ∧
        (∀ x ∈ before, p x = true → x.Located locate) ∧ p e = true ∧ ¬e.Located locate := by
  have looked := found_or_first_missing
    (fun e : Edge => if p e = true ∧ ¬e.Located locate then none else some ()) edges
  simpa [and_imp] using looked

end Edge

theorem StopsAt.of_split {α : Type} {run : List Edge → Except Unresolved α} {locate : Locator}
    {before : List Edge} {e : Edge}
    (through : ∃ result, run before = .ok result)
    (stops : ∀ later, run (before ++ e :: later) = .error (e.fault locate)) (later : List Edge) :
    StopsAt run (before ++ e :: later) before.length (e.fault locate) where
  through := by rwa [List.take_left]
  there := by
    have upTo : (before ++ e :: later).take (before.length + 1) = before ++ [e] := by
      simp [List.take_append]
    rw [upTo]
    exact stops []
  whole := stops later
  told := ⟨e, by simp, e.fault_eq_or locate⟩

namespace Sieve

variable (s : Sieve) {locate : Locator} {before : List Edge} {e : Edge}

theorem sift_stops (found : ∀ x ∈ before, x.Located locate) (lost : ¬e.Located locate)
    (later : List Edge) :
    (s.sift locate (before ++ e :: later)).outcome = .error (e.fault locate) := by
  rw [sift_append, s.sift_of_located found]
  cases ho : locate e.origin with
  | none => simp [Traced.append, sift, fault, ho, Except.map]
  | some origin =>
    cases ht : locate e.target with
    | none => simp [Traced.append, sift, fault, ho, ht, Except.map]
    | some target => exact absurd ⟨by simp [ho], by simp [ht]⟩ lost

theorem forall_mem_keep {edges : List Edge} : (∀ e ∈ s.keep edges, e.Located locate) ↔
    ∀ e ∈ edges, s.accepts e = true → e.Located locate := by
  simp [keep]

theorem survey_stops (found : ∀ x ∈ before, s.accepts x = true → x.Located locate)
    (kept : s.accepts e = true) (lost : ¬e.Located locate) (later : List Edge) :
    (s.survey locate (before ++ e :: later)).outcome = .error (e.fault locate) := by
  have stopped := s.sift_stops (s.forall_mem_keep.mpr found) lost (s.keep later)
  have split : s.keep (before ++ e :: later) = s.keep before ++ e :: s.keep later := by
    rw [keep_append, keep, keep, keep, List.filter_cons_of_pos kept]
  rw [survey_outcome, split, stopped]
  rfl

theorem sift_stops_no_later {edges : List Edge} {fault : Unresolved}
    (stopped : (s.survey locate edges).outcome = .error fault) :
    ∃ late, StopsAt (fun es => (s.survey locate es).outcome) edges late fault ∧
      ∃ early ≤ late, ∃ cause,
        StopsAt (fun es => (s.sift locate es).outcome) edges early cause := by
  cases located_or_first_lost locate s.accepts edges with
  | inl located =>
    obtain ⟨report, ok⟩ := s.survey_ok_iff.mpr (s.forall_mem_keep.mpr located)
    simp [ok] at stopped
  | inr lost =>
    obtain ⟨before, e, later, rfl, found, kept, lost⟩ := lost
    have stops := s.survey_stops found kept lost
    rw [stops later] at stopped
    cases stopped
    have through := s.survey_ok_iff.mpr (s.forall_mem_keep.mpr found)
    refine ⟨before.length, .of_split through stops later, ?_⟩
    -- Sifting stops at that edge too, unless it has stopped at one that is not kept.
    cases located_or_first_lost locate (fun _ => true) before with
    | inl located =>
      have located : ∀ x ∈ before, x.Located locate := fun x hx => located x hx rfl
      exact ⟨before.length, Nat.le_refl _, _,
        .of_split (s.sift_ok_iff.mpr located) (s.sift_stops located lost) later⟩
    | inr earlier =>
      obtain ⟨first, x, rest, rfl, located, _, missing⟩ := earlier
      have located : ∀ x ∈ first, x.Located locate := fun x hx => located x hx rfl
      refine ⟨first.length, by simp, x.fault locate, ?_⟩
      rw [List.append_assoc, List.cons_append]
      exact .of_split (s.sift_ok_iff.mpr located) (s.sift_stops located missing) _

theorem survey_of_sift_ok {edges joined : List Edge}
    (sifted : (s.sift locate edges).outcome = .ok joined) :
    ∃ report, (s.survey locate edges).outcome = .ok report ∧ report.edges = s.keep joined := by
  have located := s.sift_ok_iff.mp ⟨joined, sifted⟩
  rw [s.sift_of_located located] at sifted
  cases sifted
  obtain ⟨report, ok⟩ := s.survey_ok_iff.mpr (s.forall_mem_keep.mpr fun e he _ => located e he)
  refine ⟨report, ok, ?_⟩
  rw [s.edges_of_survey_ok ok]
  exact List.filter_comm _ _ edges

theorem survey_of_report {edges : List Edge} {report : Report}
    (ok : (s.survey locate edges).outcome = .ok report) :
    (s.survey locate report.edges).outcome =
      .ok ⟨report.edges, ⟨report.edges.length, report.edges.length, report.edges.length⟩⟩ := by
  have reported := s.edges_of_survey_ok ok
  have kept : s.keep report.edges = report.edges := by
    rw [keep, List.filter_eq_self, reported]
    intro e he
    exact (List.mem_filter.mp (List.mem_filter.mp he).1).2
  have joined : report.edges.filter (s.joins locate) = report.edges := by
    rw [List.filter_eq_self, reported]
    intro e he
    exact (List.mem_filter.mp he).2
  have located : ∀ e ∈ s.keep report.edges, e.Located locate := by
    rw [kept, reported]
    intro e he
    exact s.survey_ok_iff.mp ⟨report, ok⟩ e (List.mem_filter.mp he).1
  rw [s.survey_of_located located, kept, joined]

theorem survey_loop (c : ClassName) :
    (s.survey (fun _ => none) [⟨c, c⟩]).outcome = .ok ⟨[], ⟨1, 0, 0⟩⟩ := by
  have dropped : s.keep [⟨c, c⟩] = [] := by simp [keep, accepts]
  simp [survey, dropped, sift]

end Sieve

/-- To sift all edges and keep by names afterwards gives what a survey reports. It stops where a
survey does or before, and for some edges where a survey does not stop. Surveying a report changes
nothing in it. -/
theorem stages_in_other_order (s : Sieve) :
    (∀ locate edges joined, (s.sift locate edges).outcome = .ok joined →
        ∃ report, (s.survey locate edges).outcome = .ok report ∧
          report.edges = s.keep joined) ∧
      (∀ locate edges fault, (s.survey locate edges).outcome = .error fault →
        ∃ late, StopsAt (fun es => (s.survey locate es).outcome) edges late fault ∧
          ∃ early ≤ late, ∃ cause,
            StopsAt (fun es => (s.sift locate es).outcome) edges early cause) ∧
      (∃ locate edges report fault, (s.survey locate edges).outcome = .ok report ∧
        (s.sift locate edges).outcome = .error fault) ∧
      ∀ locate edges report, (s.survey locate edges).outcome = .ok report →
        (s.survey locate report.edges).outcome =
          .ok ⟨report.edges,
            ⟨report.edges.length, report.edges.length, report.edges.length⟩⟩ := by
  refine ⟨?_, ?_, ?_, ?_⟩
  · intro locate edges joined sifted
    exact s.survey_of_sift_ok sifted
  · intro locate edges fault stopped
    exact s.sift_stops_no_later stopped
  · exact ⟨fun _ => none, [⟨⟨""⟩, ⟨""⟩⟩], _, _, s.survey_loop _, rfl⟩
  · intro locate edges report ok
    exact s.survey_of_report ok

theorem stages_in_other_order_sample :
    (∃ report, (Sieve.standard.survey Sample.locate [Sample.inward, Sample.inward]).outcome =
        .ok report ∧ report.edges = Sieve.standard.keep [Sample.inward, Sample.inward]) ∧
      (∃ late, StopsAt (fun es => (Sieve.standard.survey Sample.locate es).outcome)
          (Sample.edges ++ [Sample.lost]) late ⟨"lost.A", "origin"⟩ ∧
        ∃ early ≤ late, ∃ cause, StopsAt (fun es => (Sieve.standard.sift Sample.locate es).outcome)
          (Sample.edges ++ [Sample.lost]) early cause) ∧
      (Sieve.standard.survey Sample.locate [Sample.inward, Sample.inward]).outcome =
        .ok ⟨[Sample.inward, Sample.inward], ⟨2, 2, 2⟩⟩ := by
  have located : ∀ e ∈ [Sample.inward, Sample.inward], e.Located Sample.locate := by
    decide +kernel
  have order := stages_in_other_order Sieve.standard
  refine ⟨order.1 _ _ _ (by rw [Sieve.sift_of_located _ located, Sample.joined_inward]), ?_, ?_⟩
  · exact order.2.1 _ _ _ (by rw [Sample.survey_edges_lost])
  · exact order.2.2.2 _ _ _ (by rw [Sample.survey_edges])

end EdgeSieve
