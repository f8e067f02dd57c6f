import EdgeSieve.Proofs.Options.Values
import Mathlib.Data.List.Sort

namespace EdgeSieve

namespace Field

def alone (table : CharNames) (f : Field) (v : Option Value) : Checked Unit :=
  match f with
  | .packages => (f.fullNames v).map fun _ => ()
  | .requires => (f.names v).map fun _ => ()
  | .regex | .filterRegex | .included | .systemModules => (f.pattern table v).map fun _ => ()
  | .mode => (f.modeOf v).map fun _ => ()
  | .findInternals | .nested => (f.bool false v).map fun _ => ()

def complaints (table : CharNames) (f : Field) (v : Option Value) : List Complaint :=
  (f.alone table v).complaints

variable {table : CharNames} {f : Field} {v : Value} {vs : List Value}

def all : List Field :=
  [packages, regex, filterRegex, mode, requires, included, systemModules, findInternals, nested]

end Field

namespace Options

def complaints (table : CharNames) (fields : List (String × Value)) : List Complaint :=
  Field.all.flatMap fun f => f.complaints table (fields.lookup f.name)

end Options

namespace Sample

def stops : CharNames where
  find? name := if name = "FULL STOP".toList then some '.' else none

def sound : List (String × Value) :=
  [("regex", .text "app[\\N\x7bFULL STOP\x7d]Main"), ("packages", .list [.text "app"])]

end Sample

end EdgeSieve
