import EdgeSieve.Options.Basic
import EdgeSieve.Options.Checked
import EdgeSieve.Options.Value

namespace EdgeSieve

namespace Field

def complain (f : Field) (flaw : Flaw) : Checked α := .bad [⟨.field f, flaw⟩]

def element (f : Field) (i : Nat) : Value → Checked String
  | .text s => .good s
  | _ => .bad [⟨.element f i, .noText⟩]

def elements (f : Field) : Nat → List Value → Checked (List String)
  | _, [] => .good []
  | i, v :: rest =>
    ((f.element i v).both (f.elements (i + 1) rest)).map fun (s, names) => s :: names

def names (f : Field) : Option Value → Checked (List String)
  | none => .good []
  | some (.list vs) => f.elements 0 vs
  | some _ => f.complain .noList

def fullNames (f : Field) (v : Option Value) : Checked { names : List String // ¬"" ∈ names } :=
  (f.names v).andThen fun names =>
    if h : "" ∈ names then f.complain .emptyPackage else .good ⟨names, h⟩

def pattern (table : CharNames) (f : Field) : Option Value → Checked (Option Pattern)
  | none | some .null => .good none
  | some (.text text) =>
    match Pattern.ofText table text with
    | .ok p => .good (some p)
    | .error .malformed => f.complain .malformedPattern
    | .error .countTooLarge => .overflow
    | .error fault => f.complain (.unusablePattern fault)
  | some _ => f.complain .noPattern

def modeOf (f : Field) : Option Value → Checked (Option Mode)
  | none | some .null => .good none
  | some (.text text) =>
    match Mode.ofText? text with
    | some m => .good (some m)
    | none => f.complain .noMode
  | some _ => f.complain .noMode

def word (f : Field) (text : String) : Checked Bool :=
  match Value.truth? text with
  | some b => .good b
  | none => f.complain .unreadableBool

/-- A truth value: given as one, by a word, or as the number one or zero. Other whole numbers of 64
bits could be meant for one but are not; anything else is no truth value at all. -/
def bool (f : Field) (usual : Bool) : Option Value → Checked Bool
  | none => .good usual
  | some (.bool b) => .good b
  | some (.text text) => f.word text
  | some (.int n) =>
    if n = 0 then .good false
    else if n = 1 then .good true
    else f.complain (if Value.isWord n then .unreadableBool else .noBool)
  | some (.real x) =>
    if x == 0.0 then .good false
    else if x == 1.0 then .good true
    else f.complain (if Value.isWholeWord x then .unreadableBool else .noBool)
  | some _ => f.complain .noBool

end Field

namespace Options

def check (table : CharNames) (nested : Bool) (fields : List (String × Value)) : Checked Options :=
  let value (f : Field) : Option Value := fields.lookup f.name
  let packages := Field.packages.fullNames (value .packages)
  let regex := Field.regex.pattern table (value .regex)
  let filterRegex := Field.filterRegex.pattern table (value .filterRegex)
  let mode := Field.mode.modeOf (value .mode)
  let requires := Field.requires.names (value .requires)
  let included := Field.included.pattern table (value .included)
  let systemModules := Field.systemModules.pattern table (value .systemModules)
  let findInternals := Field.findInternals.bool false (value .findInternals)
  let nested := Field.nested.bool nested (value .nested)
  (packages.both (regex.both (filterRegex.both (mode.both (requires.both (included.both
    (systemModules.both (findInternals.both nested)))))))).map
    fun (packages, regex, filterRegex, mode, requires, included, systemModules, findInternals,
      nested) =>
      { packages := packages.1
        regex := regex
        filterRegex := filterRegex
        mode := mode
        requires := requires
        included := included
        systemModules := systemModules
        findInternals := findInternals
        nested := nested
        named := packages.2 }

end Options

end EdgeSieve
