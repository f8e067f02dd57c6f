import EdgeSieve.Regex.Written.Escape

namespace EdgeSieve.Regex.Written

namespace Bracket

variable (table : CharNames)

def member? (ascii : Bool) : Symbol → List Symbol → Option (CharItem × List Symbol)
  | .plain c, rest => some (.literal c.toNat, rest)
  | .dangling, _ => none
  | .escaped c, rest =>
    match Escape.readListed? table c rest with
    | some (.literal n, rest) => some (.literal n, rest)
    | some (.named kind negated, rest) => some (.named kind ascii negated, rest)
    | _ => none

def span? : CharItem → CharItem → Option CharItem
  | .literal lo, .literal hi => if lo ≤ hi then some (.span lo hi) else none
  | _, _ => none

def members? (ascii : Bool) :
    Nat → List CharItem → List Symbol → Option (List CharItem × List Symbol)
  | 0, _, _ => none
  | _ + 1, _, [] => none
  | n + 1, found, s :: rest =>
    if s = .plain ']' ∧ found ≠ [] then some (found.reverse, rest)
    else
      match member? table ascii s rest with
      | none => none
      | some (item, .plain '-' :: .plain ']' :: rest) =>
        some ((CharItem.literal '-'.toNat :: item :: found).reverse, rest)
      | some (item, .plain '-' :: t :: rest) =>
        match member? table ascii t rest with
        | none => none
        | some (other, rest) =>
          match span? item other with
          | none => none
          | some item => members? ascii n (item :: found) rest
      | some (item, rest) => members? ascii n (item :: found) rest

def read? (rules : Rules) (rest : List Symbol) : Option (CharSet × List Symbol) :=
  let (negated, rest) :=
    match rest with
    | .plain '^' :: rest => (true, rest)
    | rest => (false, rest)
  (members? table rules.ascii rest.length [] rest).map fun (items, rest) =>
    (.ofItems rules.folding negated items, rest)

end Bracket

end EdgeSieve.Regex.Written
