import EdgeSieve.Notice
import EdgeSieve.Sieve.Written

namespace EdgeSieve

inductive Setting (P : Type) : Type
  | packages : List String → Setting P
  | nested : Bool → Setting P
  | classes : Option P → Setting P
  | excluded : Option P → Setting P
  | dropSame : (package archive : Bool) → Setting P
  | dropBoth : Setting P
  | requires : String → List String → Setting P
  | findInternals : Bool → Setting P
  | included : Option P → Setting P
  | systemModules : Option P → Setting P
  | considered : String → Setting P
  deriving DecidableEq

namespace Setting

def read (table : CharNames) : Setting String → Except PatternFault (Setting Pattern)
  | .packages names => .ok (.packages names)
  | .nested b => .ok (.nested b)
  | .classes p => (Pattern.ofText? table p).map .classes
  | .excluded p => (Pattern.ofText? table p).map .excluded
  | .dropSame package archive => .ok (.dropSame package archive)
  | .dropBoth => .ok .dropBoth
  | .requires name names => .ok (.requires name names)
  | .findInternals b => .ok (.findInternals b)
  | .included p => (Pattern.ofText? table p).map .included
  | .systemModules p => (Pattern.ofText? table p).map .systemModules
  | .considered name => .ok (.considered name)

end Setting

structure Criteria : Type where
  packages : NameSet := ∅
  nested : Bool := false
  classes : Option Pattern := none
  excluded : Option Pattern := none
  dropSamePackage : Bool := false
  dropSameArchive : Bool := false
  requires : NameSet := ∅
  findInternals : Bool := false
  included : Option Pattern := none
  systemModules : Option Pattern := none
  considered : List String := []
  deriving DecidableEq

structure Made (ε α : Type) : Type where
  outcome : Except ε α
  notices : List Notice

namespace Criteria

def set (c : Criteria) : Setting Pattern → Criteria
  | .packages names => { c with packages := c.packages.insertAll names }
  | .nested b => { c with nested := b }
  | .classes p => { c with classes := p }
  | .excluded p => { c with excluded := p }
  | .dropSame package archive => { c with dropSamePackage := package, dropSameArchive := archive }
  | .dropBoth => { c with dropSamePackage := true, dropSameArchive := true }
  | .requires name names =>
    { c with
      requires := c.requires.insert name
      packages := c.packages.insertAll names
      considered := c.considered ++ [name] }
  | .findInternals b => { c with findInternals := b }
  | .included p => { c with included := p }
  | .systemModules p => { c with systemModules := p }
  | .considered name => { c with considered := c.considered ++ [name] }

def setAll (c : Criteria) (settings : List (Setting Pattern)) : Criteria := settings.foldl set c

def ofSettings (table : CharNames) : Criteria → List (Setting String) → Except PatternFault Criteria
  | c, [] => .ok c
  | c, s :: rest =>
    match s.read table with
    | .ok s => ofSettings table (c.set s) rest
    | .error fault => .error fault

def systemPattern (c : Criteria) : Option Pattern :=
  match c.systemModules with
  | some p => some p
  | none =>
    if c.considered.any Pattern.systemNames.matchesAll then some .systemNames else none

def targetRule (c : Criteria) : Except PackageFault (Option TargetRule) :=
  match c.classes with
  | some p => .ok (some (.classes p))
  | none =>
    if c.packages.isEmpty then .ok none
    else (PackageRule.ofSet c.packages c.nested).map fun r => some (.packages r)

def sieveWith (c : Criteria) (target : Option TargetRule) : Sieve where
  target := target
  excluded := c.excluded
  dropSamePackage := c.dropSamePackage
  dropSameArchive := c.dropSameArchive
  findInternals := c.findInternals
  included := c.included
  systemModules := c.systemPattern
  requires := c.requires

def sieve (c : Criteria) : Except PackageFault Sieve := c.targetRule.map c.sieveWith

def notices (c : Criteria) : List Notice :=
  if c.classes.isSome && !c.packages.isEmpty then [.overridden c.packages.size] else []

def make (c : Criteria) : Made PackageFault Sieve := ⟨c.sieve, c.notices⟩

end Criteria

end EdgeSieve
