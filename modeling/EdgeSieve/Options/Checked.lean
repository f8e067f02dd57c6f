import EdgeSieve.Regex.Written.Count

namespace EdgeSieve

inductive Field : Type
  | packages : Field
  | regex : Field
  | filterRegex : Field
  | mode : Field
  | requires : Field
  | included : Field
  | systemModules : Field
  | findInternals : Field
  | nested : Field
  deriving DecidableEq

def Field.name : Field → String
  | .packages => "packages"
  | .regex => "regex"
  | .filterRegex => "filter_regex"
  | .mode => "filter_mode"
  | .requires => "requires"
  | .included => "include"
  | .systemModules => "include_system_modules"
  | .findInternals => "jdk_internals"
  | .nested => "match_subpackages"

inductive Place : Type
  | field : Field → Place
  | element : Field → Nat → Place
  | variable : String → Place
  deriving DecidableEq

inductive Flaw : Type
  | noList : Flaw
  | noText : Flaw
  | emptyPackage : Flaw
  | malformedPattern : Flaw
  | unusablePattern : Regex.Written.Fault → Flaw
  | noPattern : Flaw
  | noMode : Flaw
  | unreadableBool : Flaw
  | noBool : Flaw
  | foreign : Flaw
  deriving DecidableEq

namespace Flaw

def code : Flaw → String
  | .noList => "list_type"
  | .noText => "string_type"
  | .emptyPackage | .unusablePattern _ => "value_error"
  | .malformedPattern => "pattern_regex"
  | .noPattern => "pattern_type"
  | .noMode => "enum"
  | .unreadableBool => "bool_parsing"
  | .noBool => "bool_type"
  | .foreign => "extra_forbidden"

def message : Flaw → String
  | .noList => "Input should be a valid list"
  | .noText => "Input should be a valid string"
  | .emptyPackage => "Value error, Package name must not be empty"
  | .malformedPattern => Regex.Written.Fault.message .malformed
  | .unusablePattern fault => "Value error, " ++ fault.message
  | .noPattern => "Input should be a valid pattern"
  | .noMode => "Input should be 'none', 'package' or 'archive'"
  | .unreadableBool => "Input should be a valid boolean, unable to interpret input"
  | .noBool => "Input should be a valid boolean"
  | .foreign => "Extra inputs are not permitted"

end Flaw

structure Complaint : Type where
  place : Place
  flaw : Flaw
  deriving DecidableEq

inductive Checked (α : Type) : Type
  | good : α → Checked α
  | bad : List Complaint → Checked α
  | overflow : Checked α

namespace Checked

def map (f : α → β) : Checked α → Checked β
  | .good a => .good (f a)
  | .bad cs => .bad cs
  | .overflow => .overflow

/-- Joins two outcomes: overflow in either wins, then the complaints of both in order. -/
def both : Checked α → Checked β → Checked (α × β)
  | .overflow, _ => .overflow
  | _, .overflow => .overflow
  | .bad cs, .bad ds => .bad (cs ++ ds)
  | .bad cs, .good _ => .bad cs
  | .good _, .bad ds => .bad ds
  | .good a, .good b => .good (a, b)

def andThen : Checked α → (α → Checked β) → Checked β
  | .good a, f => f a
  | .bad cs, _ => .bad cs
  | .overflow, _ => .overflow

end Checked

end EdgeSieve
