namespace EdgeSieve

structure Counts : Type where
  total : Nat
  afterEdges : Nat
  afterArchives : Nat
  deriving DecidableEq

inductive Severity : Type
  | debug : Severity
  | info : Severity
  deriving DecidableEq

def Severity.text : Severity → String
  | .debug => "DEBUG"
  | .info => "INFO"

inductive Notice : Type
  | overridden : (packages : Nat) → Notice
  | configured : (summary : String) → Notice
  | surveyed : Counts → Notice
  | selected : (archives : Nat) → Notice
  deriving DecidableEq

namespace Notice

def severity : Notice → Severity
  | .surveyed _ => .info
  | _ => .debug

def channel : Notice → String
  | .overridden _ => "depfilter.filtering.builder"
  | .configured _ => "depfilter.options"
  | .surveyed _ | .selected _ => "depfilter.analysis.passes"

def message : Notice → String
  | .overridden n => "Regex target filter overrides " ++ n.repr ++ " target packages"
  | .configured summary => "Dependency filter configured:\n" ++ summary
  | .surveyed _ => "dependency_filter_pass"
  | .selected n => "Selected " ++ n.repr ++ " root archives"

end Notice

end EdgeSieve
