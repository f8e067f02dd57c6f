import EdgeSieve.Proofs.Options.Flawed

namespace EdgeSieve

namespace Value

end Value

namespace Checked

variable {x : Checked α} {y : Checked β}

end Checked

namespace Field

open Value

variable {f : Field} {v : Option Value}

end Field

namespace Options

open Value

/-- Options that hold what the values of their own fields come to. -/
structure Holds (table : CharNames) (nested : Bool) (fields : List (String × Value))
    (o : Options) : Prop where
  packages : Gives MeansNames [] (fields.lookup Field.packages.name) o.packages
  regex : Gives (MeansPattern table) none (fields.lookup Field.regex.name) o.regex
  filterRegex : Gives (MeansPattern table) none (fields.lookup Field.filterRegex.name) o.filterRegex
  mode : Gives MeansMode none (fields.lookup Field.mode.name) o.mode
  requires : Gives MeansNames [] (fields.lookup Field.requires.name) o.requires
  included : Gives (MeansPattern table) none (fields.lookup Field.included.name) o.included
  systemModules :
    Gives (MeansPattern table) none (fields.lookup Field.systemModules.name) o.systemModules
  findInternals : Gives MeansBool false (fields.lookup Field.findInternals.name) o.findInternals
  nested : Gives MeansBool nested (fields.lookup Field.nested.name) o.nested

end Options

end EdgeSieve
