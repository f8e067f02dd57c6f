import EdgeSieve.Notice
import EdgeSieve.Sieve

namespace EdgeSieve

structure Unresolved : Type where
  className : String
  role : String
  deriving DecidableEq

namespace Unresolved

def message (u : Unresolved) : String :=
  "No archive resolved for " ++ u.role ++ " class '" ++ u.className ++ "'"

def origin (e : Edge) : Unresolved := ⟨e.origin.dotted, "origin"⟩

def target (e : Edge) : Unresolved := ⟨e.target.dotted, "target"⟩

end Unresolved

structure Traced (α : Type) : Type where
  outcome : Except Unresolved α
  asked : List ClassName

abbrev Locator := ClassName → Option Placed

namespace Sieve

def keep (s : Sieve) (edges : List Edge) : List Edge := edges.filter s.accepts

def sift (s : Sieve) (locate : Locator) : List Edge → Traced (List Edge)
  | [] => ⟨.ok [], []⟩
  | e :: rest =>
    match locate e.origin with
    | none => ⟨.error (.origin e), [e.origin]⟩
    | some origin =>
      match locate e.target with
      | none => ⟨.error (.target e), [e.origin, e.target]⟩
      | some target =>
        let later := s.sift locate rest
        let kept := if s.acceptsBetween e.target origin target then [e] else []
        ⟨later.outcome.map (kept ++ ·), e.origin :: e.target :: later.asked⟩

end Sieve

structure Report : Type where
  edges : List Edge
  counts : Counts
  deriving DecidableEq

structure Surveyed : Type where
  outcome : Except Unresolved Report
  asked : List ClassName
  notices : List Notice

namespace Sieve

/-- Both stages, the first over all edges before the second begins. -/
def survey (s : Sieve) (locate : Locator) (edges : List Edge) : Surveyed :=
  let kept := s.keep edges
  let sifted := s.sift locate kept
  match sifted.outcome with
  | .error fault => ⟨.error fault, sifted.asked, []⟩
  | .ok accepted =>
    let counts : Counts := ⟨edges.length, kept.length, accepted.length⟩
    ⟨.ok ⟨accepted, counts⟩, sifted.asked, [.surveyed counts]⟩

def roots (s : Sieve) (archives : List Placed) : List Placed :=
  archives.filter fun a => s.includesModule a.archive && s.matchesArchive a.archive

def rootsNotice (s : Sieve) (archives : List Placed) : Notice :=
  .selected (s.roots archives).length

end Sieve

end EdgeSieve
