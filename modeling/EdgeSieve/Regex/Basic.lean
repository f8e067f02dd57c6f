import EdgeSieve.Regex.CharSet

namespace EdgeSieve

inductive Anchor : Type
  | textStart : Anchor
  | textEnd : Anchor
  | finalEnd : Anchor
  | lineStart : Anchor
  | lineEnd : Anchor
  | boundary : (ascii : Bool) → (inside : Bool) → Anchor
  deriving DecidableEq

inductive Greed : Type
  | greedy : Greed
  | lazy : Greed
  | possessive : Greed
  deriving DecidableEq

inductive Gaze : Type
  | ahead : Gaze
  | behind : Nat → Gaze
  deriving DecidableEq

/-- A stretch is a repetition of one character each time. Nothing matches `never`. -/
inductive Regex : Type
  | empty : Regex
  | never : Regex
  | char : CharSet → Regex
  | anchor : Anchor → Regex
  | seq : Regex → Regex → Regex
  | alt : Regex → Regex → Regex
  | capture : Nat → Regex → Regex
  | recall : Folding → Nat → Regex
  | given : Nat → Regex → Regex → Regex
  | atomic : Regex → Regex
  | look : Gaze → (wanted : Bool) → Regex → Regex
  | stretch : Greed → Nat → Option Nat → CharSet → Regex
  | loop : Greed → Nat → Option Nat → Regex → Regex
  deriving DecidableEq

namespace Regex

def sequence : List Regex → Regex
  | [] => .empty
  | [r] => r
  | r :: s :: rest => r.seq (sequence (s :: rest))

def branches : List Regex → Regex
  | [] => .never
  | r :: rest => r.alt (branches rest)

def repeated (greed : Greed) (lo : Nat) (hi : Option Nat) : Regex → Regex
  | .char set => .stretch greed lo hi set
  | r => .loop greed lo hi r

def repeats : Regex → Bool
  | .empty | .never | .char _ | .anchor _ | .recall _ _ => false
  | .seq r s | .alt r s | .given _ r s => r.repeats || s.repeats
  | .capture _ r | .atomic r | .look _ _ r => r.repeats
  | .stretch _ _ _ _ | .loop _ _ _ _ => true

def isVoid : Regex → Bool
  | .empty => true
  | .seq r s => r.isVoid && s.isVoid
  | _ => false

def first : Regex → Option CharSet
  | .char set => some set
  | .seq r s => if r.isVoid then s.first else r.first
  | _ => none

end Regex

end EdgeSieve
