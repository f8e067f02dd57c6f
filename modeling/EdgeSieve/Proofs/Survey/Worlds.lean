import EdgeSieve.Proofs.Survey.Outcome
import EdgeSieve.Proofs.Sieve.Conditions

namespace EdgeSieve

open Edge

structure ModuleInfo.Alike (m n : ModuleInfo) : Prop where
  isJdk : m.isJdk = n.isJdk
  exports : ∀ package, package ∈ m.exports ↔ package ∈ n.exports

theorem ModuleInfo.Alike.refl (m : ModuleInfo) : m.Alike m := ⟨rfl, fun _ => Iff.rfl⟩

structure Placed.Alike (a b : Placed) : Prop where
  slot : a.slot = b.slot
  module : a.archive.module.Alike b.archive.module

structure Edge.SeenAlike (locate other : Locator) (e : Edge) : Prop where
  origin : Option.Rel (fun a b => a.slot = b.slot) (locate e.origin) (other e.origin)
  target : Option.Rel Placed.Alike (locate e.target) (other e.target)

namespace Sieve

variable (s : Sieve) {locate other : Locator} {edges : List Edge}

theorem acceptsBetween_of_alike (c : ClassName) {origin origin' target target' : Placed}
    (slot : origin.slot = origin'.slot) (alike : target.Alike target') :
    s.acceptsBetween c origin target = s.acceptsBetween c origin' target' := by
  have exported : target.archive.module.isExported c.package =
      target'.archive.module.isExported c.package := by
    simp [ModuleInfo.isExported, alike.module.exports]
  simp only [acceptsBetween, Placed.same, slot, alike.slot, alike.module.isJdk, exported]

theorem sift_of_seenAlike (h : ∀ e ∈ edges, e.SeenAlike locate other) :
    s.sift locate edges = s.sift other edges := by
  induction edges with
  | nil => rfl
  | cons e edges ih =>
    obtain ⟨⟨origin, target⟩, later⟩ := List.forall_mem_cons.mp h
    simp only [sift, ih later]
    generalize locate e.origin = a, other e.origin = b at origin
    generalize locate e.target = x, other e.target = y at target
    cases origin with
    | none => rfl
    | some slot =>
      cases target with
      | none => rfl
      | some alike => simp only [s.acceptsBetween_of_alike e.target slot alike]

theorem survey_of_seenAlike (h : ∀ e ∈ edges, e.SeenAlike locate other) :
    s.survey locate edges = s.survey other edges := by
  have kept : ∀ e ∈ s.keep edges, e.SeenAlike locate other :=
    fun e he => h e (List.mem_of_mem_filter he)
  simp only [survey, s.sift_of_seenAlike kept]

end Sieve

structure World.Alike (v w : World) : Prop where
  slotOf : v.slotOf = w.slotOf
  size : v.archives.length = w.archives.length
  modules : ∀ slot : Nat, ∀ a ∈ v.archives[slot]?, ∀ b ∈ w.archives[slot]?, a.module.Alike b.module

namespace World

def withModule (w : World) (slot : Nat) (m : ModuleInfo) : World :=
  { w with archives := w.archives.modify slot fun a => { a with module := m } }

variable {v w : World} {R : Placed → Placed → Prop}

theorem placed?_rel (size : v.archives.length = w.archives.length) {slot : Nat}
    (related : ∀ a ∈ v.archives[slot]?, ∀ b ∈ w.archives[slot]?, R ⟨slot, a⟩ ⟨slot, b⟩) :
    Option.Rel R (v.placed? slot) (w.placed? slot) := by
  unfold placed?
  by_cases inside : slot < v.archives.length
  · have inside' : slot < w.archives.length := size ▸ inside
    rw [List.getElem?_eq_getElem inside, List.getElem?_eq_getElem inside'] at related ⊢
    exact .some (related _ rfl _ rfl)
  · have outside : w.archives.length ≤ slot := size ▸ Nat.not_lt.mp inside
    rw [List.getElem?_eq_none (Nat.not_lt.mp inside), List.getElem?_eq_none outside]
    exact .none

theorem locate_rel (slotOf : v.slotOf = w.slotOf) (size : v.archives.length = w.archives.length)
    {c : ClassName} (related : ∀ slot ∈ v.slotOf c, ∀ a ∈ v.archives[slot]?,
      ∀ b ∈ w.archives[slot]?, R ⟨slot, a⟩ ⟨slot, b⟩) :
    Option.Rel R (v.locate c) (w.locate c) := by
  unfold locate
  rw [← slotOf]
  cases found : v.slotOf c with
  | none => exact .none
  | some slot => exact placed?_rel size (related slot found)

theorem seenAlike (slotOf : v.slotOf = w.slotOf) (size : v.archives.length = w.archives.length)
    {e : Edge} (modules : ∀ slot ∈ v.slotOf e.target, ∀ a ∈ v.archives[slot]?,
      ∀ b ∈ w.archives[slot]?, a.module.Alike b.module) :
    e.SeenAlike v.locate w.locate where
  origin := locate_rel slotOf size fun _ _ _ _ _ _ => rfl
  target := locate_rel slotOf size fun slot hs a ha b hb => ⟨rfl, modules slot hs a ha b hb⟩

theorem Alike.seenAlike (h : v.Alike w) (e : Edge) : e.SeenAlike v.locate w.locate :=
  World.seenAlike h.slotOf h.size fun slot _ => h.modules slot

theorem withModule_seenAlike {slot : Nat} (m : ModuleInfo) {e : Edge}
    (elsewhere : w.slotOf e.target ≠ some slot) :
    e.SeenAlike (w.withModule slot m).locate w.locate := by
  apply World.seenAlike
  · rfl
  · simp [withModule]
  · intro there found a ha b hb
    -- The target is not in the slot that is changed.
    have different : slot ≠ there := by
      rintro rfl
      exact elsewhere found
    have unchanged : (w.withModule slot m).archives[there]? = w.archives[there]? := by
      simp [withModule, different]
    rw [unchanged, hb] at ha
    cases ha
    exact .refl _

end World

namespace Sieve

variable (s : Sieve) {locate : Locator} {edges : List Edge} {e : Edge}

theorem mem_of_sift_ok {joined : List Edge} (ok : (s.sift locate edges).outcome = .ok joined) :
    e ∈ joined ↔ e ∈ edges ∧ s.joins locate e = true := by
  rw [s.sift_of_located (s.sift_ok_iff.mp ⟨joined, ok⟩)] at ok
  cases ok
  exact List.mem_filter

theorem mem_of_survey_ok {report : Report} (ok : (s.survey locate edges).outcome = .ok report) :
    e ∈ report.edges ↔ (e ∈ edges ∧ s.accepts e = true) ∧ s.joins locate e = true := by
  rw [s.edges_of_survey_ok ok, List.mem_filter, keep, List.mem_filter]

theorem joins_of_different {i j : Nat} {a b : Archive} (different : i ≠ j)
    (origin : locate e.origin = some ⟨i, a⟩) (target : locate e.target = some ⟨j, b⟩) :
    s.joins locate e = true ↔ (s.findInternals = true →
      b.module.isJdk = true ∧ e.target.package ∉ b.module.exports) := by
  rw [joins_iff, origin, target]
  simp [acceptsBetween_iff, different, ModuleInfo.isJdk]

end Sieve

/-- Surveys are the same in worlds that are alike. Archives in different slots are different even
if they read the same, and modules of archives that hold no target do not matter. -/
theorem surveys_see_slots_and_exports (s : Sieve) (edges : List Edge) :
    (∀ v w : World, v.Alike w → s.sift v.locate edges = s.sift w.locate edges ∧
        s.survey v.locate edges = s.survey w.locate edges) ∧
      (∀ (w : World) (i j : Nat) (a : Archive), i ≠ j → ∀ e ∈ edges,
        w.locate e.origin = some ⟨i, a⟩ → w.locate e.target = some ⟨j, a⟩ →
        (∀ joined, (s.sift w.locate edges).outcome = .ok joined →
          (e ∈ joined ↔ (s.findInternals = true →
            a.module.isJdk = true ∧ e.target.package ∉ a.module.exports))) ∧
        ∀ report, (s.survey w.locate edges).outcome = .ok report →
          (e ∈ report.edges ↔ s.accepts e = true ∧ (s.findInternals = true →
            a.module.isJdk = true ∧ e.target.package ∉ a.module.exports))) ∧
      ∀ (w : World) (slot : Nat) (m : ModuleInfo),
        (∀ e ∈ edges, w.slotOf e.target ≠ some slot) →
        s.sift (w.withModule slot m).locate edges = s.sift w.locate edges ∧
          s.survey (w.withModule slot m).locate edges = s.survey w.locate edges := by
  refine ⟨?_, ?_, ?_⟩
  · intro v w alike
    have seen : ∀ e ∈ edges, e.SeenAlike v.locate w.locate := fun e _ => alike.seenAlike e
    exact ⟨s.sift_of_seenAlike seen, s.survey_of_seenAlike seen⟩
  · intro w i j a different e given origin target
    have joined := s.joins_of_different different origin target
    constructor
    · intro kept ok
      rw [s.mem_of_sift_ok ok, joined, and_iff_right given]
    · intro report ok
      rw [s.mem_of_survey_ok ok, joined, and_iff_right given]
  · intro w slot m elsewhere
    have seen : ∀ e ∈ edges, e.SeenAlike (w.withModule slot m).locate w.locate :=
      fun e he => World.withModule_seenAlike m (elsewhere e he)
    exact ⟨s.sift_of_seenAlike seen, s.survey_of_seenAlike seen⟩

namespace Sample

def slotOf (c : ClassName) : Option Nat :=
  if c.package = "app" then some 0 else if c.package = "sun.sql" then some 1 else none

def world : World where
  archives := [⟨"app.jar", .unnamed, []⟩, ⟨"sql.jar", .named "java.sql" ["java.sql"] none, []⟩]
  slotOf := slotOf

def alikeWorld : World where
  archives := [⟨"a.jar", .named "app" [] none, ["app/Main.class"]⟩,
    ⟨"a.jar", .named "sql" ["java.sql", "java.sql"] (some true), []⟩]
  slotOf := slotOf

def forInternals : Sieve := { findInternals := true }

def copies : World where
  archives := [⟨"app.jar", .unnamed, []⟩, ⟨"app.jar", .unnamed, []⟩]
  slotOf := slotOf

theorem world_alike : world.Alike alikeWorld where
  slotOf := rfl
  size := rfl
  modules
    | 0, _, rfl, _, rfl => ⟨by decide +kernel, fun _ => Iff.rfl⟩
    | 1, _, rfl, _, rfl => ⟨by decide +kernel, by simp [ModuleInfo.named]⟩

end Sample

theorem surveys_see_slots_and_exports_sample :
    Sample.world.Alike Sample.alikeWorld ∧
      Sample.forInternals.survey Sample.world.locate Sample.edges =
        Sample.forInternals.survey Sample.alikeWorld.locate Sample.edges ∧
      (∃ report, (Sieve.standard.survey Sample.copies.locate [Sample.inward]).outcome =
        .ok report ∧ Sample.inward ∈ report.edges) ∧
      (∀ e ∈ [Sample.inward], Sample.world.slotOf e.target ≠ some 0) ∧
      Sample.forInternals.survey (Sample.world.withModule 0 (.named "java.base" [] none)).locate
          [Sample.inward] =
        Sample.forInternals.survey Sample.world.locate [Sample.inward] := by
  have alike := Sample.world_alike
  have elsewhere : ∀ e ∈ [Sample.inward], Sample.world.slotOf e.target ≠ some 0 := by
    have second : Sample.world.slotOf Sample.inward.target = some 1 := by decide +kernel
    simp [second]
  have copied : (Sieve.standard.survey Sample.copies.locate [Sample.inward]).outcome =
      .ok ⟨[Sample.inward], ⟨1, 1, 1⟩⟩ := by
    have located : ∀ e ∈ Sieve.standard.keep [Sample.inward],
        e.Located Sample.copies.locate := by decide +kernel
    rw [Sieve.survey_of_located _ located]
    exact congrArg Except.ok (by decide +kernel)
  have kept : Sieve.standard.accepts Sample.inward = true := by decide +kernel
  have between := ((surveys_see_slots_and_exports .standard [Sample.inward]).2.1 Sample.copies 0 1
    ⟨"app.jar", .unnamed, []⟩ (by decide) Sample.inward (by simp) (by decide +kernel)
    (by decide +kernel)).2 _ copied
  have plain : ¬Sieve.standard.findInternals = true := by decide
  refine ⟨alike, ?_, ⟨_, copied, between.mpr ⟨kept, fun h => absurd h plain⟩⟩, elsewhere, ?_⟩
  · exact ((surveys_see_slots_and_exports _ _).1 _ _ alike).2
  · exact ((surveys_see_slots_and_exports _ _).2.2 _ _ _ elsewhere).2

end EdgeSieve
