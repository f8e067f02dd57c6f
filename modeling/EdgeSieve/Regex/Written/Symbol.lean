namespace EdgeSieve.Regex.Written

inductive Symbol : Type
  | plain : Char → Symbol
  | escaped : Char → Symbol
  | dangling : Symbol
  deriving DecidableEq

def symbols : List Char → List Symbol
  | [] => []
  | ['\\'] => [.dangling]
  | '\\' :: c :: rest => .escaped c :: symbols rest
  | c :: rest => .plain c :: symbols rest

def digit? (base : Nat) (c : Char) : Option Nat :=
  let value? :=
    if c.isDigit then some (c.toNat - '0'.toNat)
    else if 'a' ≤ c ∧ c ≤ 'f' then some (c.toNat - 'a'.toNat + 10)
    else if 'A' ≤ c ∧ c ≤ 'F' then some (c.toNat - 'A'.toNat + 10)
    else none
  value?.filter (· < base)

/-- Reads at most so many digits after a number begun. Gives the number, how many digits were
left to read, and the symbols after them. -/
def digitsUpTo (base : Nat) : Nat → Nat → List Symbol → Nat × Nat × List Symbol
  | n + 1, value, .plain c :: rest =>
    match digit? base c with
    | some d => digitsUpTo base n (value * base + d) rest
    | none => (value, n + 1, .plain c :: rest)
  | n, value, rest => (value, n, rest)

def digitsExactly? (base count : Nat) (rest : List Symbol) : Option (Nat × List Symbol) :=
  match digitsUpTo base count 0 rest with
  | (value, 0, rest) => some (value, rest)
  | _ => none

def digits : List Symbol → List Char × List Symbol
  | .plain c :: rest =>
    if c.isDigit then ((digits rest).map (c :: ·) id) else ([], .plain c :: rest)
  | rest => ([], rest)

def number? : List Char → Option Nat
  | [] => none
  | cs => some (cs.foldl (fun n c => n * 10 + (c.toNat - '0'.toNat)) 0)

def upTo? (stop : Char) : List Symbol → Option (List Char × List Symbol)
  | .plain c :: rest =>
    if c = stop then some ([], rest) else (upTo? stop rest).map fun (cs, rest) => (c :: cs, rest)
  | _ => none

def after? (stop : Char) : List Symbol → Option (List Symbol)
  | [] => none
  | s :: rest => if s = .plain stop then some rest else after? stop rest

/-- What follows a comment in a verbose pattern, which ends with its line or with the pattern. -/
def nextLine? : List Symbol → Option (List Symbol)
  | [] => some []
  | .plain '\n' :: rest => some rest
  | .dangling :: _ => none
  | _ :: rest => nextLine? rest

end EdgeSieve.Regex.Written
