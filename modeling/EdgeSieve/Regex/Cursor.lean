import EdgeSieve.Regex.Basic

/-!
Places in a text that is being matched, and what is noted on the way to them.

A trail holds the bookmark, the place last noted, and the marks of groups. A failed attempt leaves
its trail behind: the next way starts with its bookmark, and with those of its marks that are not
taken back.
-/

namespace EdgeSieve

/-- The place last noted, and the places where groups began and ended by number: group `i` begins
at mark `2 * i` and ends at mark `2 * i + 1`. -/
structure Trail : Type where
  bookmark : Nat
  marks : List (Nat × Nat)
  deriving DecidableEq

namespace Trail

def noting (t : Trail) (place : Nat) : Trail := { t with bookmark := place }

def mark (t : Trail) (i place : Nat) : Trail :=
  { t with marks := (i, place) :: t.marks.filter (·.1 != i) }

def highest (t : Trail) : Nat := t.marks.foldl (fun n m => max n m.1) 0

def ends? (t : Trail) (i : Nat) : Option (Nat × Nat) :=
  match t.marks.lookup (2 * i), t.marks.lookup (2 * i + 1) with
  | some start, some stop => if start ≤ stop then some (start, stop) else none
  | _, _ => none

/-- The trail after an attempt from here that failed and left another. Within a repetition all its
marks are taken back, elsewhere only those with greater numbers than there were. -/
def resumed (t : Trail) (repeating : Bool) (left : Trail) : Trail where
  bookmark := left.bookmark
  marks := if repeating then t.marks else left.marks.filter (·.1 ≤ t.highest)

end Trail

/-- A place in a text: the characters before it, nearest first, those after it, how many come
before and how many there are in all, whether it is within a repetition, and the trail to it. -/
structure Cursor : Type where
  before : List Char
  after : List Char
  place : Nat
  length : Nat
  repeating : Bool
  trail : Trail
  deriving DecidableEq

namespace Cursor

def start (text : List Char) : Cursor := ⟨[], text, 0, text.length, false, ⟨0, []⟩⟩

def onTrail (c : Cursor) (t : Trail) : Cursor := { c with trail := t }

def noted (c : Cursor) : Cursor := c.onTrail (c.trail.noting c.place)

def within (c : Cursor) (repeating : Bool) : Cursor := { c with repeating := repeating }

def left (c : Cursor) : Nat := c.length - c.place

def meets (c : Cursor) (set : CharSet) : Bool := c.after.head?.any set.contains

def forth : Nat → Cursor → Cursor
  | 0, c => c
  | n + 1, c =>
    match c.after with
    | [] => c
    | a :: rest => forth n { c with before := a :: c.before, after := rest, place := c.place + 1 }

def back : Nat → Cursor → Cursor
  | 0, c => c
  | n + 1, c =>
    match c.before with
    | [] => c
    | a :: rest => back n { c with before := rest, after := a :: c.after, place := c.place - 1 }

def goTo (c : Cursor) (place : Nat) : Cursor :=
  if place ≤ c.place then c.back (c.place - place) else c.forth (place - c.place)

def openGroup (c : Cursor) (i : Nat) : Cursor := c.onTrail (c.trail.mark (2 * i) c.place)

def closeGroup (c : Cursor) (i : Nat) : Cursor := c.onTrail (c.trail.mark (2 * i + 1) c.place)

def holds (c : Cursor) (i : Nat) : Bool := (c.trail.ends? i).isSome

def group? (c : Cursor) (i : Nat) : Option (List Char) :=
  (c.trail.ends? i).map fun (start, stop) => (c.goTo start).after.take (stop - start)

def past? (fold : Folding) : List Char → Cursor → Option Cursor
  | [], c => some c
  | a :: rest, c =>
    match c.after with
    | [] => none
    | b :: _ => if fold.key a.toNat = fold.key b.toNat then past? fold rest (c.forth 1) else none

theorem after_forth {n : Nat} {c : Cursor} : (c.forth n).after = c.after.drop n := by
  induction n generalizing c with
  | zero => rfl
  | succ n ih =>
    obtain ⟨before, after, place, length, repeating, trail⟩ := c
    cases after with
    | nil => rfl
    | cons a rest => simp [forth, ih]

theorem forth_one {n : Nat} {c : Cursor} : (c.forth 1).forth n = c.forth (n + 1) := by
  obtain ⟨before, after, place, length, repeating, trail⟩ := c
  cases after with
  | nil => cases n <;> rfl
  | cons a rest => rfl

theorem after_eq_nil_of_back {c : Cursor} (h : (c.back 1).after = []) : c.after = [] := by
  obtain ⟨before, after, place, length, repeating, trail⟩ := c
  cases before with
  | nil => exact h
  | cons a rest => cases h

theorem meets_literal_exact {c : Cursor} {a : Char} :
    c.meets (.literal .exact a.toNat) = true ↔ c.after.head? = some a := by
  unfold meets
  cases c.after with
  | nil => simp
  | cons b rest => simp [CharSet.contains_literal_exact]

end Cursor

namespace Anchor

def edge (ascii : Bool) (c : Cursor) : Bool :=
  c.before.head?.any (Shorthand.word.holds ascii) != c.after.head?.any (Shorthand.word.holds ascii)

/-- Whether a condition holds at a place. An empty text has neither boundaries nor insides of
words. -/
def holds : Anchor → Cursor → Bool
  | .textStart, c => c.before.isEmpty
  | .textEnd, c => c.after.isEmpty
  | .finalEnd, c => c.after.isEmpty || c.after == ['\n']
  | .lineStart, c => c.before.isEmpty || c.before.head? == some '\n'
  | .lineEnd, c => c.after.isEmpty || c.after.head? == some '\n'
  | .boundary ascii inside, c =>
    !(c.before.isEmpty && c.after.isEmpty) && edge ascii c != inside

end Anchor

inductive Attempt : Type
  | ends : Cursor → Attempt
  | fails : Trail → Attempt
  deriving DecidableEq

namespace Attempt

def succeeds : Attempt → Bool
  | .ends _ => true
  | .fails _ => false

def orElse (a : Attempt) (next : Trail → Attempt) : Attempt :=
  match a with
  | .ends d => .ends d
  | .fails t => next t

def noting (a : Attempt) (place : Nat) : Attempt := a.orElse fun t => .fails (t.noting place)

theorem succeeds_orElse {a : Attempt} {next : Trail → Attempt} {p : Prop}
    (h : ∀ t, (next t).succeeds = true ↔ p) :
    (a.orElse next).succeeds = true ↔ a.succeeds = true ∨ p := by
  cases a with
  | ends d => simp [orElse, succeeds]
  | fails t => simp [orElse, succeeds, ← h t]

end Attempt

end EdgeSieve
