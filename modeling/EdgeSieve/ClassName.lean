namespace EdgeSieve

structure ClassName : Type where
  binary : String
  deriving DecidableEq

namespace ClassName

def swap (a b : Char) (text : String) : String := text.map fun c => if c = a then b else c

def dots (text : String) : String := swap '/' '.' text

def ofDotted (text : String) : ClassName := ⟨swap '.' '/' text⟩

def dotted (c : ClassName) : String := dots c.binary

def beforeLast (a : Char) (text : List Char) : List Char :=
  (text.reverse.dropWhile (· ≠ a)).tail.reverse

theorem beforeLast_append {a : Char} {u v : List Char} (last : a ∉ v) :
    beforeLast a (u ++ a :: v) = u := by
  have skipped : ∀ b ∈ v.reverse, (decide (b ≠ a)) = true := by
    intro b hb
    simp only [decide_eq_true_eq]
    rintro rfl
    exact last (List.mem_reverse.mp hb)
  rw [beforeLast, List.reverse_append, List.reverse_cons, List.append_assoc,
    List.dropWhile_append_of_pos skipped]
  simp

theorem beforeLast_of_not_mem {a : Char} {u : List Char} (h : a ∉ u) : beforeLast a u = [] := by
  have skipped : ∀ b ∈ u.reverse, (decide (b ≠ a)) = true := by
    intro b hb
    simp only [decide_eq_true_eq]
    rintro rfl
    exact h (List.mem_reverse.mp hb)
  have dropped : (u.reverse ++ []).dropWhile (· ≠ a) = [] := List.dropWhile_append_of_pos skipped
  rw [List.append_nil] at dropped
  rw [beforeLast, dropped]
  rfl

def package (c : ClassName) : String := dots (.ofList (beforeLast '/' c.binary.toList))

end ClassName

structure Edge : Type where
  origin : ClassName
  target : ClassName
  deriving DecidableEq

namespace Edge

def ofDotted (origin target : String) : Edge := ⟨.ofDotted origin, .ofDotted target⟩

def display (e : Edge) : String := e.origin.dotted ++ " -> " ++ e.target.dotted

end Edge

end EdgeSieve
