import EdgeSieve.Sieve

namespace EdgeSieve

inductive SieveFault : Type
  | pattern : PatternFault → SieveFault
  | package : PackageFault → SieveFault
  deriving DecidableEq

namespace Pattern

def ofText? (table : CharNames) : Option String → Except PatternFault (Option Pattern)
  | none => .ok none
  | some text => (ofText table text).map some

end Pattern

inductive WrittenRule : Type
  | classes : String → WrittenRule
  | packages : List String → (nested : Bool) → WrittenRule
  deriving DecidableEq

def WrittenRule.read (table : CharNames) : WrittenRule → Except SieveFault TargetRule
  | .classes text => ((Pattern.ofText table text).map .classes).mapError .pattern
  | .packages names nested =>
    ((PackageRule.ofSet (.ofList names) nested).map .packages).mapError .package

structure WrittenSieve : Type where
  target : Option WrittenRule
  excluded : Option String
  included : Option String
  systemModules : Option String
  dropSamePackage : Bool
  dropSameArchive : Bool
  findInternals : Bool
  requires : List String
  deriving DecidableEq

/-- Reads a sieve: its patterns first, its rule on targets last. -/
def WrittenSieve.read (table : CharNames) (w : WrittenSieve) : Except SieveFault Sieve := do
  let excluded ← (Pattern.ofText? table w.excluded).mapError .pattern
  let included ← (Pattern.ofText? table w.included).mapError .pattern
  let systemModules ← (Pattern.ofText? table w.systemModules).mapError .pattern
  let target ←
    match w.target with
    | none => .ok none
    | some rule => (rule.read table).map some
  return {
    target := target
    excluded := excluded
    dropSamePackage := w.dropSamePackage
    dropSameArchive := w.dropSameArchive
    findInternals := w.findInternals
    included := included
    systemModules := systemModules
    requires := .ofList w.requires }

end EdgeSieve
