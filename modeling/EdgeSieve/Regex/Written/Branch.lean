import EdgeSieve.Regex.Basic

/-!
Branches, the parts one after another between the bars of a pattern, and what stands for several of
them. Parts that all branches begin with come once, before the choice, and a choice between single
characters is a set.
-/

namespace EdgeSieve.Regex.Written

inductive Part : Type
  | char : CharSet → Part
  | anchor : Anchor → Part
  | recall : Folding → Nat → Part
  | group : Regex → Part
  | loop : Greed → Nat → Option Nat → Regex → Part
  deriving DecidableEq

namespace Part

def regex : Part → Regex
  | .char set => .char set
  | .anchor a => .anchor a
  | .recall fold i => .recall fold i
  | .group r => r
  | .loop greed lo hi r => .repeated greed lo hi r

def isPlain : Part → Bool
  | .char _ | .anchor _ | .recall _ _ => true
  | .group _ | .loop _ _ _ _ => false

def items? : Part → Option (List CharItem)
  | .char set => set.items?
  | _ => none

end Part

abbrev Branch := List Part

namespace Branch

def regex (b : Branch) : Regex := .sequence (b.map Part.regex)

def items? : Branch → Option (List CharItem)
  | [p] => p.items?
  | _ => none

def shared : Branch → List Branch → Branch × Branch × List Branch
  | [], others => ([], [], others)
  | p :: rest, others =>
    if p.isPlain && others.all (·.head? == some p) then
      let (front, first, others) := shared rest (others.map List.tail)
      (p :: front, first, others)
    else ([], p :: rest, others)

def choice (fold : Folding) (branches : List Branch) : Part :=
  match branches.mapM items? with
  | some sets => .char (.listed fold false sets.flatten.eraseDups)
  | none => .group (.branches (branches.map regex))

def join (fold : Folding) (first : Branch) (others : List Branch) : Branch :=
  match others with
  | [] => first
  | _ =>
    let (front, first, others) := shared first others
    front ++ [choice fold (first :: others)]

end Branch

end EdgeSieve.Regex.Written
