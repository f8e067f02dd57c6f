import EdgeSieve.Catalogue
import EdgeSieve.Criteria

namespace EdgeSieve

inductive Mode : Type
  | keep : Mode
  | package : Mode
  | archive : Mode
  deriving DecidableEq

namespace Mode

def text : Mode → String
  | .keep => "none"
  | .package => "package"
  | .archive => "archive"

def ofText? (text : String) : Option Mode :=
  [keep, package, archive].find? (·.text = text)

def drops : Option Mode → Bool × Bool
  | none | some .archive => (true, true)
  | some .package => (true, false)
  | some .keep => (false, false)

end Mode

structure Options : Type where
  packages : List String := []
  regex : Option Pattern := none
  filterRegex : Option Pattern := none
  mode : Option Mode := none
  requires : List String := []
  included : Option Pattern := none
  systemModules : Option Pattern := none
  findInternals : Bool := false
  nested : Bool := false
  named : ¬"" ∈ packages := by simp
  deriving DecidableEq

inductive OptionsFault : Type
  | unknownModule : UnknownModule → OptionsFault
  | package : PackageFault → OptionsFault
  deriving DecidableEq

namespace Options

/-- The classes to scan: those asked for, else all when internals are looked for, since any class
may use them. -/
def scanned (o : Options) : Option Pattern :=
  match o.included with
  | some p => some p
  | none => if o.findInternals then some .anything else none

def settings (o : Options) : List (Setting Pattern) :=
  let (package, archive) := Mode.drops o.mode
  [.packages o.packages, .nested o.nested, .classes o.regex, .excluded o.filterRegex,
    .dropSame package archive, .findInternals o.findInternals, .systemModules o.systemModules,
    .included o.scanned]

def requirements (known : Catalogue) : List String → Except UnknownModule (List (Setting Pattern))
  | [] => .ok []
  | name :: rest =>
    match known.packages? name with
    | none => .error ⟨name, known.size⟩
    | some packages => (requirements known rest).map (.requires name packages :: ·)

def criteria (o : Options) (known : Catalogue) : Except UnknownModule Criteria :=
  (requirements known o.requires).map fun required =>
    Criteria.setAll {} (o.settings ++ required)

def sieve (o : Options) (known : Catalogue) : Made OptionsFault Sieve :=
  match o.criteria known with
  | .error fault => ⟨.error (.unknownModule fault), []⟩
  | .ok c =>
    match c.sieve with
    | .error fault => ⟨.error (.package fault), c.notices⟩
    | .ok s => ⟨.ok s, c.notices ++ [.configured s.summary]⟩

end Options

end EdgeSieve
