import EdgeSieve.Regex.Matching
import EdgeSieve.Regex.Written.Bracket
import EdgeSieve.Regex.Written.Level

namespace EdgeSieve.Regex

namespace Written

namespace State

def count (s : State) (lo : Nat) (hi : Option Nat) (rest : List Symbol) :
    Except Fault (State × List Symbol) :=
  let (greed, rest) := Count.greed rest
  match s.level.repeat? greed lo hi with
  | some level => .ok ({ s with level := level }, rest)
  | none => .error .malformed

/-- A brace: a count, or a character like others. A backslash that dangles right after the count
is seen before the count is. -/
def brace (s : State) (rest : List Symbol) : Except Fault (State × List Symbol) :=
  match Count.written? rest with
  | none => .ok (s.push (.char (s.level.rules.literal '\x7b'.toNat)), rest)
  | some (_, _, [.dangling]) => .error .malformed
  | some (lo, hi, rest) =>
    match Count.ofWritten lo hi with
    | .ok (lo, hi) => s.count lo hi rest
    | .error fault => .error fault

variable (table : CharNames)

def escape? (s : State) (c : Char) (rest : List Symbol) : Option (State × List Symbol) :=
  let rules := s.level.rules
  match Escape.read? table rules.ascii c rest with
  | some (.literal n, rest) => some (s.push (.char (rules.literal n)), rest)
  | some (.named kind negated, rest) => some (s.push (.char (rules.named kind negated)), rest)
  | some (.anchor a, rest) => some (s.push (.anchor a), rest)
  | some (.recall i, rest) => (s.pushRecall? i).map (·, rest)
  | none => none

def parenthesis? (s : State) (rest : List Symbol) : Option (State × List Symbol) :=
  match Parenthesis.read? rest with
  | some (.group opening, rest) => (s.open? opening).map (·, rest)
  | some (.recall name, rest) =>
    ((s.names.lookup name).bind s.pushRecall?).map (·, rest)
  | some (.flags on, rest) => (s.flag? on).map (·, rest)
  | some (.comment, rest) => some (s, rest)
  | none => none

def plain (s : State) (c : Char) (rest : List Symbol) : Except Fault (State × List Symbol) :=
  let rules := s.level.rules
  let made : Option (State × List Symbol) → Except Fault (State × List Symbol)
    | some next => .ok next
    | none => .error .malformed
  if c = '|' then made (s.level.bar?.map ({ s with level := · }, rest))
  else if rules.verbose ∧ Shorthand.asciiBlank c then .ok (s, rest)
  else if rules.verbose ∧ c = '#' then made ((nextLine? rest).map (s, ·))
  else
    match c with
    | '(' => made (s.parenthesis? rest)
    | '[' =>
      made ((Bracket.read? table rules rest).map fun (set, rest) => (s.push (.char set), rest))
    | '.' => .ok (s.push (.char rules.dot), rest)
    | '^' => .ok (s.push (.anchor rules.caret), rest)
    | '$' => .ok (s.push (.anchor rules.dollar), rest)
    | '*' => s.count 0 none rest
    | '+' => s.count 1 none rest
    | '?' => s.count 0 (some 1) rest
    | '\x7b' => s.brace rest
    | c => .ok (s.push (.char (rules.literal c.toNat)), rest)

/-- Reads symbols to the end. Each turn uses up one at least, so as many turns as there are
symbols are enough. -/
def read : Nat → State → List Symbol → Except Fault Regex
  | _, s, [] => s.finish false
  | 0, _, _ => .error .malformed
  | n + 1, s, .plain ')' :: rest =>
    match s.close? with
    | some s => read n s rest
    | none => s.finish true
  | n + 1, s, .plain c :: rest =>
    match s.plain table c rest with
    | .ok (s, rest) => read n s rest
    | .error fault => .error fault
  | n + 1, s, .escaped c :: rest =>
    match s.escape? table c rest with
    | some (s, rest) => read n s rest
    | none => .error .malformed
  | _, _, .dangling :: _ => .error .malformed

end State

end Written

def ofText (table : CharNames) (text : List Char) : Except Written.Fault Regex :=
  let symbols := Written.symbols text
  Written.State.start.read table symbols.length symbols

end EdgeSieve.Regex
