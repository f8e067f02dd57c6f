import EdgeSieve.ClassName
import EdgeSieve.NameSet
import EdgeSieve.Pattern

namespace EdgeSieve

inductive PackageFault : Type
  | emptyName : PackageFault
  deriving DecidableEq

def PackageFault.message : PackageFault → String
  | .emptyName => "Package name must not be empty"

structure PackageRule : Type where
  packages : NameSet
  nested : Bool
  named : ¬"" ∈ packages
  deriving DecidableEq

namespace PackageRule

def ofSet (packages : NameSet) (nested : Bool) : Except PackageFault PackageRule :=
  if h : "" ∈ packages then .error .emptyName else .ok ⟨packages, nested, h⟩

def nestedIn (outer inner : String) : Bool := (outer ++ ".").toList.isPrefixOf inner.toList

def covers (r : PackageRule) (package : String) : Bool :=
  decide (package ∈ r.packages) || (r.nested && r.packages.any (nestedIn · package))

end PackageRule

inductive TargetRule : Type
  | classes : Pattern → TargetRule
  | packages : PackageRule → TargetRule
  deriving DecidableEq

namespace TargetRule

def accepts : TargetRule → ClassName → Bool
  | .classes p, c => p.matchesAll c.dotted
  | .packages r, c => r.covers c.package

end TargetRule

end EdgeSieve
