import EdgeSieve.Proofs.Survey.Outcome

namespace EdgeSieve

instance : Add Counts :=
  ⟨fun a b => ⟨a.total + b.total, a.afterEdges + b.afterEdges, a.afterArchives + b.afterArchives⟩⟩

theorem Counts.add_def (a b : Counts) : a + b =
    ⟨a.total + b.total, a.afterEdges + b.afterEdges, a.afterArchives + b.afterArchives⟩ := rfl

def Traced.append (first second : Traced (List Edge)) : Traced (List Edge) :=
  match first.outcome with
  | .error fault => ⟨.error fault, first.asked⟩
  | .ok kept => ⟨second.outcome.map (kept ++ ·), first.asked ++ second.asked⟩

def Surveyed.append (first second : Surveyed) : Surveyed :=
  match first.outcome, second.outcome with
  | .error fault, _ => ⟨.error fault, first.asked, []⟩
  | .ok _, .error fault => ⟨.error fault, first.asked ++ second.asked, []⟩
  | .ok a, .ok b => ⟨.ok ⟨a.edges ++ b.edges, a.counts + b.counts⟩, first.asked ++ second.asked,
      [.surveyed (a.counts + b.counts)]⟩

namespace Sieve

variable (s : Sieve) (locate : Locator) (xs ys : List Edge)

@[simp] theorem keep_append : s.keep (xs ++ ys) = s.keep xs ++ s.keep ys :=
  List.filter_append xs ys

theorem sift_append :
    s.sift locate (xs ++ ys) = (s.sift locate xs).append (s.sift locate ys) := by
  induction xs with
  | nil =>
    simp only [List.nil_append, sift, Traced.append]
    cases s.sift locate ys with
    | mk outcome asked => cases outcome <;> rfl
  | cons e xs ih =>
    simp only [List.cons_append, sift, ih]
    cases locate e.origin with
    | none => rfl
    | some origin =>
      cases locate e.target with
      | none => rfl
      | some target =>
        -- Both ends are found, so the batch stops just where its later edges do.
        cases h : (s.sift locate xs).outcome with
        | error fault => simp [Traced.append, h, Except.map]
        | ok kept =>
          cases g : (s.sift locate ys).outcome <;> simp [Traced.append, h, g, Except.map]

theorem survey_append :
    s.survey locate (xs ++ ys) = (s.survey locate xs).append (s.survey locate ys) := by
  simp only [survey, keep_append, sift_append]
  cases h : (s.sift locate (s.keep xs)).outcome with
  | error fault => simp [Traced.append, Surveyed.append, h]
  | ok a =>
    cases g : (s.sift locate (s.keep ys)).outcome <;>
      simp [Traced.append, Surveyed.append, Counts.add_def, h, g, Except.map]

end Sieve

/-- A survey of edges and more edges is the survey of the first and then of the others: it stops
where the first of the two does that stops, else their results are put together. -/
theorem survey_in_batches (s : Sieve) (locate : Locator) (xs ys : List Edge) :
    (∀ fault, (s.survey locate xs).outcome = .error fault →
        s.survey locate (xs ++ ys) = ⟨.error fault, (s.survey locate xs).asked, []⟩) ∧
      (∀ first fault, (s.survey locate xs).outcome = .ok first →
        (s.survey locate ys).outcome = .error fault →
        s.survey locate (xs ++ ys) =
          ⟨.error fault, (s.survey locate xs).asked ++ (s.survey locate ys).asked, []⟩) ∧
      ∀ first second, (s.survey locate xs).outcome = .ok first →
        (s.survey locate ys).outcome = .ok second →
        s.survey locate (xs ++ ys) =
          ⟨.ok ⟨first.edges ++ second.edges, first.counts + second.counts⟩,
            (s.survey locate xs).asked ++ (s.survey locate ys).asked,
            [.surveyed (first.counts + second.counts)]⟩ := by
  rw [s.survey_append]
  refine ⟨?_, ?_, ?_⟩
  · intro fault stopped
    simp [Surveyed.append, stopped]
  · intro first fault completed stopped
    simp [Surveyed.append, completed, stopped]
  · intro first second completed finished
    simp [Surveyed.append, completed, finished]

theorem survey_in_batches_sample :
    (Sieve.standard.survey Sample.locate ([Sample.lost] ++ Sample.edges)).outcome =
        .error ⟨"lost.A", "origin"⟩ ∧
      (Sieve.standard.survey Sample.locate (Sample.edges ++ [Sample.lost])).asked =
        [⟨"app/Main"⟩, ⟨"sun/sql/Pool"⟩, ⟨"app/Main"⟩, ⟨"sun/sql/Pool"⟩, ⟨"lost/A"⟩] ∧
      (Sieve.standard.survey Sample.locate (Sample.edges ++ [Sample.inward])).outcome =
        .ok ⟨[Sample.inward, Sample.inward, Sample.inward], ⟨5, 3, 3⟩⟩ := by
  have stopped : Sieve.standard.survey Sample.locate [Sample.lost] =
      ⟨.error ⟨"lost.A", "origin"⟩, [⟨"lost/A"⟩], []⟩ := by
    have kept : Sieve.standard.keep [Sample.lost] = [Sample.lost] := by decide +kernel
    have missing : Sample.locate Sample.lost.origin = none := by decide +kernel
    have told : Unresolved.origin Sample.lost = ⟨"lost.A", "origin"⟩ := by decide +kernel
    simp only [Sieve.survey, kept, Sieve.sift, missing, told]
    rfl
  have finished : (Sieve.standard.survey Sample.locate [Sample.inward]).outcome =
      .ok ⟨[Sample.inward], ⟨1, 1, 1⟩⟩ := by
    have located : ∀ e ∈ Sieve.standard.keep [Sample.inward], e.Located Sample.locate := by
      decide +kernel
    rw [Sieve.survey_of_located _ located]
    exact congrArg Except.ok (by decide +kernel)
  refine ⟨?_, ?_, ?_⟩
  · rw [(survey_in_batches _ _ _ _).1 _ (by rw [stopped])]
  · rw [(survey_in_batches _ _ _ _).2.1 _ _ (by rw [Sample.survey_edges]) (by rw [stopped]),
      Sample.survey_edges, stopped]
    rfl
  · rw [(survey_in_batches _ _ _ _).2.2 _ _ (by rw [Sample.survey_edges]) finished]
    rfl

end EdgeSieve
