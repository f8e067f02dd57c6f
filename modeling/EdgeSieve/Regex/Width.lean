import EdgeSieve.Regex.Basic

namespace EdgeSieve

structure Width : Type where
  least : Nat
  most : Option Nat
  deriving DecidableEq

namespace Width

def exactly (n : Nat) : Width := ⟨n, some n⟩

def add (a b : Width) : Width :=
  ⟨a.least + b.least, a.most.bind fun m => b.most.map (m + ·)⟩

def either (a b : Width) : Width :=
  ⟨min a.least b.least, a.most.bind fun m => b.most.map (max m)⟩

/-- The greatest width of a repetition: none when the count or the repeated width has no bound,
unless the other of the two is nothing. -/
def timesMost : Option Nat → Option Nat → Option Nat
  | some 0, _ => some 0
  | _, some 0 => some 0
  | some m, some n => some (m * n)
  | _, _ => none

def times (a : Width) (lo : Nat) (hi : Option Nat) : Width :=
  ⟨a.least * lo, timesMost a.most hi⟩

def reach : Nat := 4294967295

def fixed? (w : Width) : Option Nat :=
  if w.most = some w.least ∧ w.least < reach then some w.least else none

def ofGroups (known : List (Nat × Width)) (i : Nat) : Width := (known.lookup i).getD (.exactly 0)

end Width

namespace Regex

/-- The width of an expression, given the widths of the groups it recalls. Among branches, one that
never matches is as wide as can be. -/
def width (group : Nat → Width) : Regex → Width
  | .empty | .anchor _ | .look _ _ _ => .exactly 0
  | .never => ⟨Width.reach - 1, some 0⟩
  | .char _ => .exactly 1
  | .seq r s => (r.width group).add (s.width group)
  | .alt r s | .given _ r s => (r.width group).either (s.width group)
  | .capture _ r | .atomic r => r.width group
  | .recall _ i => group i
  | .stretch _ lo hi _ => (Width.exactly 1).times lo hi
  | .loop _ lo hi r => (r.width group).times lo hi

def groups (known : List (Nat × Width)) : Regex → List (Nat × Width)
  | .empty | .never | .char _ | .anchor _ | .recall _ _ | .stretch _ _ _ _ => known
  | .seq r s | .alt r s | .given _ r s => s.groups (r.groups known)
  | .capture i r =>
    let known := r.groups known
    (i, r.width (.ofGroups known)) :: known
  | .atomic r | .look _ _ r | .loop _ _ _ r => r.groups known

def least (r : Regex) : Nat := (r.width (.ofGroups (r.groups []))).least

end Regex

end EdgeSieve
