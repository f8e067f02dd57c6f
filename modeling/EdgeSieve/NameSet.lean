/-!
Finite sets of names, kept as increasing lists. Two sets with the same members are equal, whatever
was inserted in which order and how often.
-/

namespace EdgeSieve

structure NameSet : Type where
  toList : List String
  increasing : toList.Pairwise (· < ·)
  deriving DecidableEq

namespace NameSet

def place (x : String) : List String → List String
  | [] => [x]
  | y :: ys => if x < y then x :: y :: ys else if x = y then y :: ys else y :: place x ys

theorem mem_place {x y : String} {ys : List String} : y ∈ place x ys ↔ y = x ∨ y ∈ ys := by
  induction ys with
  | nil => simp [place]
  | cons z zs ih =>
    simp only [place]
    split
    · simp
    · split
      · next h => simp [h]
      · simp only [List.mem_cons, ih]
        constructor
        · rintro (h | h | h) <;> simp [h]
        · rintro (h | h | h) <;> simp [h]

theorem pairwise_place {x : String} {ys : List String} (h : ys.Pairwise (· < ·)) :
    (place x ys).Pairwise (· < ·) := by
  induction ys with
  | nil => simp [place]
  | cons z zs ih =>
    obtain ⟨least, rest⟩ := List.pairwise_cons.mp h
    simp only [place]
    split
    · next before =>
      refine List.pairwise_cons.mpr ⟨fun y hy => ?_, h⟩
      rcases List.mem_cons.mp hy with rfl | hy
      · exact before
      · exact String.lt_trans before (least y hy)
    · next notBefore =>
      split
      · exact h
      · next different =>
        have after : z < x := by
          refine Decidable.byContradiction fun notAfter => different ?_
          exact String.le_antisymm (String.not_lt.mp notAfter) (String.not_lt.mp notBefore)
        refine List.pairwise_cons.mpr ⟨fun y hy => ?_, ih rest⟩
        rcases mem_place.mp hy with rfl | hy
        · exact after
        · exact least y hy

instance : EmptyCollection NameSet := ⟨⟨[], .nil⟩⟩

instance : Membership String NameSet := ⟨fun s x => x ∈ s.toList⟩

instance (x : String) (s : NameSet) : Decidable (x ∈ s) := inferInstanceAs (Decidable (x ∈ s.toList))

def insert (s : NameSet) (x : String) : NameSet := ⟨place x s.toList, pairwise_place s.increasing⟩

def insertAll (s : NameSet) (xs : List String) : NameSet := xs.foldl insert s

def ofList (xs : List String) : NameSet := insertAll ∅ xs

def isEmpty (s : NameSet) : Bool := s.toList.isEmpty

def size (s : NameSet) : Nat := s.toList.length

def any (s : NameSet) (p : String → Bool) : Bool := s.toList.any p

theorem mem_def {x : String} {s : NameSet} : x ∈ s ↔ x ∈ s.toList := Iff.rfl

@[simp] theorem not_mem_empty {x : String} : ¬x ∈ (∅ : NameSet) := List.not_mem_nil

@[simp] theorem mem_insert {x y : String} {s : NameSet} : y ∈ s.insert x ↔ y = x ∨ y ∈ s :=
  mem_place

@[simp] theorem mem_insertAll {y : String} {s : NameSet} {xs : List String} :
    y ∈ s.insertAll xs ↔ y ∈ s ∨ y ∈ xs := by
  induction xs generalizing s with
  | nil => simp [insertAll]
  | cons x xs ih =>
    rw [show s.insertAll (x :: xs) = (s.insert x).insertAll xs from rfl, ih]
    simp only [mem_insert, List.mem_cons]
    constructor
    · rintro ((h | h) | h) <;> simp [h]
    · rintro (h | h | h) <;> simp [h]

@[simp] theorem mem_ofList {y : String} {xs : List String} : y ∈ ofList xs ↔ y ∈ xs := by
  simp [ofList]

theorem eq_of_pairwise {xs ys : List String} (hx : xs.Pairwise (· < ·)) (hy : ys.Pairwise (· < ·))
    (same : ∀ z, z ∈ xs ↔ z ∈ ys) : xs = ys := by
  induction xs generalizing ys with
  | nil =>
    cases ys with
    | nil => rfl
    | cons y ys => exact absurd ((same y).mpr (by simp)) List.not_mem_nil
  | cons x xs ih =>
    cases ys with
    | nil => exact absurd ((same x).mp (by simp)) List.not_mem_nil
    | cons y ys =>
      obtain ⟨leastX, restX⟩ := List.pairwise_cons.mp hx
      obtain ⟨leastY, restY⟩ := List.pairwise_cons.mp hy
      -- Each head is the least of its list and stands in the other list.
      have head : x = y := by
        rcases List.mem_cons.mp ((same x).mp (by simp)) with h | h
        · exact h
        · rcases List.mem_cons.mp ((same y).mpr (by simp)) with g | g
          · exact g.symm
          · exact absurd (leastX y g) (String.lt_asymm (leastY x h))
      subst head
      congr 1
      refine ih restX restY fun z => ⟨fun h => ?_, fun h => ?_⟩
      · rcases List.mem_cons.mp ((same z).mp (List.mem_cons_of_mem _ h)) with rfl | g
        · exact absurd (leastX z h) (String.lt_irrefl z)
        · exact g
      · rcases List.mem_cons.mp ((same z).mpr (List.mem_cons_of_mem _ h)) with rfl | g
        · exact absurd (leastY z h) (String.lt_irrefl z)
        · exact g

theorem ext {s t : NameSet} (same : ∀ x, x ∈ s ↔ x ∈ t) : s = t := by
  have lists := eq_of_pairwise s.increasing t.increasing same
  cases s
  cases t
  cases lists
  rfl

end NameSet

end EdgeSieve
