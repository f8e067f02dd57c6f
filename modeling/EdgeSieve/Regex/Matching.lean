import EdgeSieve.Regex.CharSet.Folded
import EdgeSieve.Regex.Cursor
import EdgeSieve.Regex.Width

/-!
Matching by backtracking. An expression is run on a cursor with a continuation, which stands for
what comes after it; the first way through that the continuation accepts is the answer. The order
of the ways decides what groups hold and what atomic parts keep.

A repetition of characters counts them first and then goes back, so the count bounds it. Any other
repetition takes turns. A turn that reads nothing is the last one, and one that begins where another
began leads nowhere new, so as many turns as there are places in the text are enough.

Once a turn of a possessive repetition fails, matching goes on from the bookmark of its trail, which
can be before or after the place where the turn began. That is what the recorded runs show: by it
`(?:ab?c)*+c?` matches all of `aca`, which it would not do from where the failed turn began. Elsewhere
a trail shows only in its marks. What is noted when is part of the meaning of every expression.
-/

namespace EdgeSieve

namespace CharSet

def count (set : CharSet) (most : Option Nat) : List Char → Nat → Nat
  | [], n => n
  | a :: rest, n => if most ≠ some n ∧ set.contains a then count set most rest (n + 1) else n

theorem count_eq {set : CharSet} {text : List Char} {n : Nat} :
    set.count none text n = n + (text.takeWhile set.contains).length := by
  induction text generalizing n with
  | nil => rfl
  | cons a rest ih =>
    rw [count]
    cases h : set.contains a with
    | false => simp [h]
    | true =>
      simp only [h, ne_eq, reduceCtorEq, not_false_eq_true, and_self, if_true, ih,
        List.takeWhile_cons_of_pos, List.length_cons]
      omega

end CharSet

namespace Regex

abbrev Rest := Cursor → Attempt

def anywhere : Rest := fun c => .ends c.noted

def atEnd : Rest := fun c => if c.after.isEmpty then .ends c else .fails c.trail

def way (k : Rest) : Rest := fun c =>
  (k c.noted).orElse fun t => .fails (c.trail.resumed c.repeating t)

theorem succeeds_way {k : Rest} {c : Cursor} :
    (way k c).succeeds = true ↔ (k c.noted).succeeds = true := by
  unfold way
  cases k c.noted <;> rfl

def step (k : Rest) : Rest := fun c => (k c.noted).noting c.place

/-- Goes on here, unless a character that must follow is not the next one. -/
def foremost (follow : Option CharSet) (k : Rest) : Rest := fun c =>
  if follow.all fun set => !set.isLiteral || c.meets set then way k c else .fails c.trail

def retreat (follow : Option CharSet) (k : Rest) : Nat → Rest
  | 0, c => foremost follow k c
  | n + 1, c =>
    (foremost follow k c).orElse fun t => retreat follow k n ((c.back 1).onTrail t)

def advance (set : CharSet) (k : Rest) : List Char → Option Nat → Rest
  | [], _, c => step (way k) c
  | a :: rest, most, c =>
    (step (way k) c).orElse fun t =>
      let next := (c.onTrail t).forth 1
      if !set.contains a then .fails t
      else if most = some 0 then .fails (if set.countsSingly then next.noted.trail else t)
      else advance set k rest (most.map (· - 1)) next

def stretched (greed : Greed) (lo : Nat) (hi : Option Nat) (set : CharSet)
    (follow : Option CharSet) (k : Rest) : Rest := fun c =>
  let n := set.count (if greed = .lazy then some lo else hi) c.after 0
  let c' := c.noted
  let read := c'.forth n
  let read := if set.countsSingly then read.noted else read
  if c.left < lo then .fails c.trail
  else if n < lo then .fails read.trail
  else
    match greed with
    | .greedy => retreat follow k (n - lo) read
    | .lazy => advance set k read.after (hi.map (· - lo)) read
    | .possessive => k read

def exactly (body : Rest → Rest) : Nat → Rest → Rest
  | 0, k, c => k c
  | n + 1, k, c => step (body (exactly body n k)) c

def greedily (body : Rest → Rest) : Nat → Rest → Rest
  | 0, k, c => step k c
  | n + 1, k, c =>
    (body (fun d => if d.place = c.place then step k d else greedily body n k d) c.noted).orElse
      fun _ => step k c

def lazily (body : Rest → Rest) : Nat → Rest → Rest
  | 0, k, c => step k c
  | n + 1, k, c =>
    (step k c).orElse fun t =>
      step (body fun d => if d.place = c.place then step k d else lazily body n k d) (c.onTrail t)

/-- Exactly so many turns, each in its first way. A failure notes where they began. -/
def firmly (body : Rest → Rest) (start : Nat) : Nat → Rest → Rest
  | 0, k, c => k c
  | n + 1, k, c =>
    match body anywhere c.noted with
    | .ends d => firmly body start n k d
    | .fails t => .fails (t.noting start)

/-- At most so many turns, each in its first way, and all that succeed. They end at the bookmark of
the turn that fails, not where it began. -/
def possessively (body : Rest → Rest) : Nat → Cursor → Cursor
  | 0, c => c
  | n + 1, c =>
    match body anywhere c.noted with
    | .ends d => if d.place = c.place then d else possessively body n d
    | .fails t => (c.goTo t.bookmark).noted

def turns (lo : Nat) (hi : Option Nat) (c : Cursor) : Nat :=
  match hi with
  | some m => min (m - lo) (c.length + 1)
  | none => c.length + 1

/-- Runs an expression. `follow` is the set that the next character is asked to be of by what comes
right after, if that is known. -/
def run : Regex → (follow : Option CharSet) → Rest → Rest
  | .empty, _ => fun k => k
  | .never, _ => fun _ c => .fails c.trail
  | .char set, _ => fun k c => if c.meets set then k (c.forth 1) else .fails c.trail
  | .anchor a, _ => fun k c => if a.holds c then k c else .fails c.trail
  | .seq r s, follow => fun k => r.run (if s.isVoid then follow else s.first) (s.run follow k)
  | .alt r s, _ => fun k c =>
    if r.first.all fun set => !set.isGuard || c.meets set then
      (way (r.run none k) c).orElse fun t => s.run none k (c.onTrail t)
    else s.run none k c
  | .capture i r, _ => fun k c => r.run none (fun d => k (d.closeGroup i)) (c.openGroup i)
  | .recall fold i, _ => fun k c =>
    match (c.group? i).bind (c.past? fold ·) with
    | some d => k d
    | none => .fails c.trail
  | .given i r s, follow => fun k c =>
    if c.holds i then r.run (if s.isVoid then follow else none) k c else s.run follow k c
  | .atomic r, _ => fun k c =>
    match r.run none anywhere c.noted with
    | .ends d => k d
    | .fails t => .fails (t.noting c.place)
  | .look gaze wanted r, _ => fun k c =>
    let eye? :=
      match gaze with
      | .ahead => some c
      | .behind n => if n ≤ c.place then some (c.back n) else none
    match eye? with
    | none => if wanted then .fails c.trail else k c
    | some eye =>
      match r.run none anywhere eye.noted, wanted with
      | .ends d, true => k (c.onTrail d.trail)
      -- A look that should not have found anything fails with the trail of what it found.
      | .ends d, false => .fails d.trail
      | .fails t, true => .fails t
      | .fails t, false => k (c.onTrail (c.trail.resumed c.repeating t))
  | .stretch greed lo hi set, follow => stretched greed lo hi set follow
  | .loop greed lo hi r, _ => fun k c =>
    let body := r.run none
    match greed with
    | .greedy =>
      let rest : Rest := fun d => k (d.within c.repeating)
      exactly body lo (fun d => greedily body (turns lo hi d) rest d) (c.within true)
    | .lazy =>
      let rest : Rest := fun d => way k (d.within c.repeating)
      exactly body lo (fun d => lazily body (turns lo hi d) rest d) (c.within true)
    | .possessive =>
      firmly body c.place lo (fun d => k (possessively body (turns lo hi d) d)) c

/-- Whether an expression matches a whole text. One that is shorter than any match is not run. -/
def fullMatch (r : Regex) (text : List Char) : Bool :=
  decide (r.least ≤ text.length) && (r.run none atEnd (.start text)).succeeds

end Regex

end EdgeSieve
