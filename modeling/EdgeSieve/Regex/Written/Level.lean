import EdgeSieve.Regex.Width
import EdgeSieve.Regex.Written.Branch
import EdgeSieve.Regex.Written.Count
import EdgeSieve.Regex.Written.Group
import EdgeSieve.Regex.Written.GroupNumber
import EdgeSieve.Unicode.Identifier

namespace EdgeSieve.Regex.Written

/-- What a count may follow or not: a part, or a bare group, whose parts go to the branch around it
unless the group is repeated. -/
inductive Piece : Type
  | part : Part → Piece
  | bare : Branch → Piece
  deriving DecidableEq

namespace Piece

def parts : Piece → Branch
  | .part p => [p]
  | .bare b => b

def repeated? : Piece → Option Regex
  | .part (.anchor _) | .part (.loop _ _ _ _) => none
  | .part p => some p.regex
  | .bare b => some b.regex

end Piece

inductive Kind : Type
  | top : Kind
  | bare : Kind
  | within : Kind
  | capture : Nat → Kind
  | atomic : Kind
  | look : (behind wanted : Bool) → Kind
  | given : Nat → Kind
  deriving DecidableEq

/-- A group being read. Within a look-behind, `visible` is the number of captures that had begun
before it, which are all that may be recalled. Branches and pieces stand newest first. -/
structure Level : Type where
  kind : Kind
  rules : Rules
  visible : Option Nat
  finished : List Branch
  pieces : List Piece
  deriving DecidableEq

namespace Level

def start (kind : Kind) (rules : Rules) (visible : Option Nat) : Level :=
  ⟨kind, rules, visible, [], []⟩

def branch (l : Level) : Branch := l.pieces.reverse.flatMap Piece.parts

def joined (l : Level) : Branch :=
  match l.finished.reverse with
  | [] => l.branch
  | first :: others => .join l.rules.folding first (others ++ [l.branch])

def contents (l : Level) : Regex := l.joined.regex

def push (l : Level) (p : Piece) : Level := { l with pieces := p :: l.pieces }

def bar? (l : Level) : Option Level :=
  match l.kind, l.finished with
  | .given _, _ :: _ => none
  | _, _ => some { l with finished := l.branch :: l.finished, pieces := [] }

def repeat? (l : Level) (greed : Greed) (lo : Nat) (hi : Option Nat) : Option Level :=
  match l.pieces with
  | [] => none
  | p :: rest =>
    p.repeated?.map fun r => { l with pieces := .part (.loop greed lo hi r) :: rest }

end Level

/-- What has been read of a pattern: the innermost group, those around it, how many captures
began, the widths of those that ended, their names, the captures that other groups depend on,
whether some look-behind has no fixed width, and the flags of the whole pattern. -/
structure State : Type where
  level : Level
  outer : List Level
  opened : Nat
  closed : List (Nat × Width)
  names : List (List Char × Nat)
  required : List Nat
  uneven : Bool
  flags : List Flag

namespace State

def start : State := ⟨.start .top {} none, [], 0, [], [], [], false, []⟩

def push (s : State) (p : Part) : State := { s with level := s.level.push (.part p) }

def width (s : State) (r : Regex) : Width :=
  r.width (.ofGroups s.closed)

/-- Whether a group may be recalled here: it has ended, and it began before the look-behind that
stands around this place. -/
def recallable (s : State) (i : Nat) : Bool :=
  (s.closed.lookup i).isSome && s.level.visible.all (i ≤ ·)

def pushRecall? (s : State) (i : Nat) : Option State :=
  if s.recallable i then some (s.push (.recall s.level.rules.folding i)) else none

def conditionOf? (s : State) (name : List Char) : Option (Nat × List Nat) :=
  if Unicode.isIdentifier name then (s.names.lookup name).map (·, s.required)
  else (GroupNumber.read? name).map fun i => (i, i :: s.required)

def enter (s : State) (level : Level) : State :=
  { s with level := level, outer := s.level :: s.outer }

def open? (s : State) : Opening → Option State
  | .bare => some (s.enter (.start .bare s.level.rules s.level.visible))
  | .capture none =>
    let i := s.opened + 1
    some { s.enter (.start (.capture i) s.level.rules s.level.visible) with opened := i }
  | .capture (some name) =>
    let i := s.opened + 1
    if Unicode.isIdentifier name && (s.names.lookup name).isNone then
      some { s.enter (.start (.capture i) s.level.rules s.level.visible) with
        opened := i
        names := (name, i) :: s.names }
    else none
  | .within on off =>
    some (s.enter (.start .within (s.level.rules.turn on off) s.level.visible))
  | .atomic => some (s.enter (.start .atomic s.level.rules s.level.visible))
  | .look behind wanted =>
    let visible := if behind then some (s.level.visible.getD s.opened) else s.level.visible
    some (s.enter (.start (.look behind wanted) s.level.rules visible))
  | .given name =>
    match s.conditionOf? name with
    | some (i, required) =>
      if s.level.visible.isNone || s.recallable i then
        some { s.enter (.start (.given i) s.level.rules s.level.visible) with required := required }
      else none
    | none => none

def grouped (s : State) : Piece × Bool :=
  let contents := s.level.contents
  match s.level.kind with
  | .bare => (.bare s.level.joined, true)
  | .top | .within => (.part (.group contents), true)
  | .capture i => (.part (.group (.capture i contents)), true)
  | .atomic => (.part (.group (.atomic contents)), true)
  | .look false wanted => (.part (.group (.look .ahead wanted contents)), true)
  | .look true wanted =>
    match (s.width contents).fixed? with
    | some n => (.part (.group (.look (.behind n) wanted contents)), true)
    | none => (.part (.group (.look (.behind 0) wanted contents)), false)
  | .given i =>
    match s.level.finished with
    | [] => (.part (.group (.given i s.level.branch.regex .empty)), true)
    | b :: _ => (.part (.group (.given i b.regex s.level.branch.regex)), true)

def close? (s : State) : Option State :=
  match s.outer with
  | [] => none
  | level :: outer =>
    let (p, even) := s.grouped
    let closed :=
      match s.level.kind with
      | .capture i => (i, s.width s.level.contents) :: s.closed
      | _ => s.closed
    some { s with
      level := level.push p
      outer := outer
      closed := closed
      uneven := s.uneven || !even }

def flag? (s : State) (on : List Flag) : Option State :=
  if s.outer.isEmpty && s.level.finished.isEmpty && s.level.pieces.isEmpty then
    some { s with
      level := { s.level with rules := s.level.rules.turn on [] }
      flags := on ++ s.flags }
  else none

def finish (s : State) (unbalanced : Bool) : Except Fault Regex :=
  if !s.outer.isEmpty then .error .malformed
  else if s.flags.contains .ascii && s.flags.contains .unicode then .error .flagsConflict
  else if unbalanced || s.required.any (s.opened < ·) || s.uneven then .error .malformed
  else if s.flags.contains .flat && s.level.contents.repeats then .error .malformed
  else .ok s.level.contents

end State

end EdgeSieve.Regex.Written
