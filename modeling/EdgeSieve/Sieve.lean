import EdgeSieve.Archive
import EdgeSieve.TargetRule

namespace EdgeSieve

structure Sieve : Type where
  target : Option TargetRule := none
  excluded : Option Pattern := none
  dropSamePackage : Bool := false
  dropSameArchive : Bool := false
  findInternals : Bool := false
  included : Option Pattern := none
  systemModules : Option Pattern := none
  requires : NameSet := ∅
  deriving DecidableEq

namespace Sieve

def standard : Sieve := { dropSamePackage := true, dropSameArchive := true }

def accepts (s : Sieve) (e : Edge) : Bool :=
  e.origin ≠ e.target &&
    !(s.dropSamePackage && e.origin.package == e.target.package) &&
    !s.excluded.any (·.matchesAll e.target.package) &&
    s.target.all (·.accepts e.target)

/-- Whether an edge onto a class is kept by the archives of its ends. Looking for internals wins
over dropping edges within an archive: kept is what comes from outside onto a package that a
module of the platform does not export. -/
def acceptsBetween (s : Sieve) (c : ClassName) (origin target : Placed) : Bool :=
  if s.findInternals then
    !origin.same target && target.archive.module.isJdk &&
      !target.archive.module.isExported c.package
  else if s.dropSameArchive then !origin.same target
  else true

def matchesClass (s : Sieve) (name : String) : Bool := s.included.all (·.matchesAll name)

def descriptor : String := "module-info.class"

/-- Whether an archive is scanned: with an include pattern, if some entry but the descriptor
matches it; else if any targets are looked for. -/
def matchesArchive (s : Sieve) (a : Archive) : Bool :=
  if s.included.isSome then
    (a.entries.map ClassName.dots).any fun name => name ≠ descriptor && s.matchesClass name
  else s.target.isSome

def includesModule (s : Sieve) (a : Archive) : Bool :=
  !a.module.isSystem || s.systemModules.any (·.matchesAll a.module.name)

def hasTarget (s : Sieve) : Bool := s.target.isSome

def hasInclude (s : Sieve) : Bool := s.included.isSome || s.systemModules.isSome

def truth (b : Bool) : String := if b then "True" else "False"

def summary (s : Sieve) : String :=
  "include pattern: " ++ (s.included.map Pattern.text).getD "None" ++ "\n" ++
    "filter same archive: " ++ truth s.dropSameArchive ++ "\n" ++
    "filter same package: " ++ truth s.dropSamePackage ++ "\n" ++
    "requires: " ++ Text.quotedList s.requires.toList ++ "\n"

end Sieve

end EdgeSieve
