import EdgeSieve.Survey
import EdgeSieve.Proofs.FirstMissing

namespace EdgeSieve

structure Edge.End : Type where
  name : ClassName
  role : String
  deriving DecidableEq

namespace Edge

def ends (e : Edge) : List End := [⟨e.origin, "origin"⟩, ⟨e.target, "target"⟩]

def allEnds (edges : List Edge) : List End := edges.flatMap ends

def End.unresolved (x : End) : Unresolved := ⟨x.name.dotted, x.role⟩

def End.Found (locate : Locator) (x : End) : Prop := (locate x.name).isSome = true

instance (locate : Locator) (x : End) : Decidable (x.Found locate) :=
  inferInstanceAs (Decidable (_ = _))

theorem allEnds_cons (e : Edge) (edges : List Edge) :
    allEnds (e :: edges) = ⟨e.origin, "origin"⟩ :: ⟨e.target, "target"⟩ :: allEnds edges := rfl

def Located (locate : Locator) (e : Edge) : Prop :=
  (locate e.origin).isSome = true ∧ (locate e.target).isSome = true

instance (locate : Locator) (e : Edge) : Decidable (e.Located locate) :=
  inferInstanceAs (Decidable (_ ∧ _))

theorem found_iff_located {locate : Locator} {edges : List Edge} :
    (∀ x ∈ allEnds edges, x.Found locate) ↔ ∀ e ∈ edges, e.Located locate := by
  induction edges with
  | nil => simp [allEnds]
  | cons e edges ih =>
    rw [allEnds_cons, List.forall_mem_cons, List.forall_mem_cons, List.forall_mem_cons, ih]
    simp only [Located, End.Found, and_assoc]

end Edge

open Edge

structure FirstMissing (locate : Locator) (edges : List Edge) (before : List End) (x : End) :
    Prop where
  split : ∃ after, allEnds edges = before ++ x :: after
  found : ∀ y ∈ before, y.Found locate
  missing : locate x.name = none

theorem located_or_missing (locate : Locator) (edges : List Edge) :
    (∀ e ∈ edges, e.Located locate) ∨ ∃ before x, FirstMissing locate edges before x := by
  rw [← found_iff_located]
  cases found_or_first_missing (fun x : End => locate x.name) (allEnds edges) with
  | inl found => exact Or.inl found
  | inr missing =>
    obtain ⟨before, x, after, split, found, missing⟩ := missing
    exact Or.inr ⟨before, x, ⟨after, split⟩, found, missing⟩

namespace Sieve

def joins (s : Sieve) (locate : Locator) (e : Edge) : Bool :=
  match locate e.origin, locate e.target with
  | some origin, some target => s.acceptsBetween e.target origin target
  | _, _ => false

theorem joins_iff {s : Sieve} {locate : Locator} {e : Edge} : s.joins locate e = true ↔
    ∃ origin ∈ locate e.origin, ∃ target ∈ locate e.target,
      s.acceptsBetween e.target origin target = true := by
  unfold joins
  cases locate e.origin <;> cases locate e.target <;> simp

variable (s : Sieve) {locate : Locator} {edges : List Edge}

theorem sift_of_located (h : ∀ e ∈ edges, e.Located locate) :
    s.sift locate edges = ⟨.ok (edges.filter (s.joins locate)), (allEnds edges).map End.name⟩ := by
  induction edges with
  | nil => rfl
  | cons e edges ih =>
    obtain ⟨⟨originFound, targetFound⟩, later⟩ := List.forall_mem_cons.mp h
    obtain ⟨origin, ho⟩ := Option.isSome_iff_exists.mp originFound
    obtain ⟨target, ht⟩ := Option.isSome_iff_exists.mp targetFound
    have joined : s.joins locate e = s.acceptsBetween e.target origin target := by
      simp [joins, ho, ht]
    simp only [sift, ho, ht, ih later, allEnds_cons, List.map_cons, List.filter_cons, joined]
    cases s.acceptsBetween e.target origin target <;> rfl

theorem sift_of_missing {before : List End} {x : End} (h : FirstMissing locate edges before x) :
    s.sift locate edges = ⟨.error x.unresolved, (before ++ [x]).map End.name⟩ := by
  obtain ⟨⟨after, split⟩, found, missing⟩ := h
  induction edges generalizing before with
  | nil => simp [allEnds] at split
  | cons e edges ih =>
    rw [allEnds_cons] at split
    -- The missing end is the origin of the first edge, its target, or an end of a later edge.
    cases before with
    | nil =>
      simp only [List.nil_append, List.cons.injEq] at split
      obtain ⟨rfl, _⟩ := split
      simp only [sift, missing]
      rfl
    | cons y before =>
      simp only [List.cons_append, List.cons.injEq] at split
      obtain ⟨rfl, split⟩ := split
      obtain ⟨originFound, found⟩ := List.forall_mem_cons.mp found
      obtain ⟨origin, ho⟩ := Option.isSome_iff_exists.mp originFound
      cases before with
      | nil =>
        simp only [List.nil_append, List.cons.injEq] at split
        obtain ⟨rfl, _⟩ := split
        simp only [sift, ho, missing]
        rfl
      | cons z before =>
        simp only [List.cons_append, List.cons.injEq] at split
        obtain ⟨rfl, split⟩ := split
        obtain ⟨targetFound, found⟩ := List.forall_mem_cons.mp found
        obtain ⟨target, ht⟩ := Option.isSome_iff_exists.mp targetFound
        simp only [sift, ho, ht, ih found split]
        rfl

theorem sift_ok_iff :
    (∃ joined, (s.sift locate edges).outcome = .ok joined) ↔ ∀ e ∈ edges, e.Located locate := by
  constructor
  · intro h
    obtain ⟨joined, ok⟩ := h
    cases located_or_missing locate edges with
    | inl located => exact located
    | inr missing =>
      obtain ⟨before, x, missing⟩ := missing
      simp [s.sift_of_missing missing] at ok
  · intro located
    exact ⟨_, by rw [s.sift_of_located located]⟩

end Sieve

end EdgeSieve
