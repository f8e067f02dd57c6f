import EdgeSieve.Regex.CharSet

namespace EdgeSieve

namespace Folding

def isCased : Folding → Nat → Bool
  | .exact, _ => false
  | .ascii, n => Unicode.asciiVariants n != [n]
  | .unicode, n => Unicode.lower n != n || Unicode.upper n != n

/-- Whether a run of characters, so far from one to the next, has one in a span. -/
def meets (lo hi : Nat) : Nat × Nat × Nat × Nat → Bool
  | (first, last, stride, _) =>
    let n := if lo ≤ first then first else first + (lo - first + stride - 1) / stride * stride
    decide (n ≤ last) && decide (n ≤ hi)

def hasCased (lo hi : Nat) : Folding → Bool
  | .exact => false
  | .ascii => meets lo hi (0x41, 0x5A, 1, 0x61) || meets lo hi (0x61, 0x7A, 1, 0x41)
  | .unicode => Unicode.lowerRuns.any (meets lo hi) || Unicode.upperRuns.any (meets lo hi)

end Folding

namespace CharItem

/-- Whether the folding matters to a member. Beyond the basic plane it is taken to. -/
def isFolded (fold : Folding) : CharItem → Bool
  | .literal n => fold != .exact && (decide (basicPlane ≤ n) || fold.isCased n)
  | .span lo hi => fold != .exact && (decide (basicPlane ≤ hi) || fold.hasCased lo hi)
  | .named _ _ _ => false

end CharItem

namespace CharSet

def isFolded : CharSet → Bool
  | .everything | .noNewline => false
  | .single fold _ n => fold.isCased n
  | .listed fold _ items => items.any (·.isFolded fold)

def isLiteral : CharSet → Bool
  | .single fold negated n => !negated && !fold.isCased n
  | _ => false

/-- Whether a set tells from the next character alone if an alternative can begin with it: a
character or a list, as they stand. -/
def isGuard : CharSet → Bool
  | .listed fold negated items => !(listed fold negated items).isFolded
  | set => set.isLiteral

/-- Whether characters of a set are counted one by one: those of folded lists, and a character with
more than two forms. -/
def countsSingly : CharSet → Bool
  | .listed fold negated items => (listed fold negated items).isFolded
  | .single .unicode _ n =>
    Folding.unicode.isCased n && decide (1 < (Unicode.siblingsOf (Unicode.lower n)).length)
  | _ => false

end CharSet

end EdgeSieve
