import EdgeSieve.Regex.Basic
import EdgeSieve.Regex.Written.Symbol

namespace EdgeSieve.Regex.Written

/-- The flags. `flat` forbids repetition; `unicode` only undoes `ascii`. -/
inductive Flag : Type
  | caseless : Flag
  | multiline : Flag
  | dotAll : Flag
  | verbose : Flag
  | ascii : Flag
  | unicode : Flag
  | flat : Flag
  deriving DecidableEq

def Flag.ofChar? : Char → Option Flag
  | 'i' => some .caseless
  | 'm' => some .multiline
  | 's' => some .dotAll
  | 'x' => some .verbose
  | 'a' => some .ascii
  | 'u' => some .unicode
  | 't' => some .flat
  | _ => none

inductive FlagGroup : Type
  | whole : List Flag → FlagGroup
  | within : (on off : List Flag) → FlagGroup
  deriving DecidableEq

namespace FlagGroup

/-- Whether flags may stand together: not both `ascii` and `unicode`, and within a group neither a
change of `flat`, nor `ascii` or `unicode` off, nor a flag both on and off. -/
def lawful : FlagGroup → Bool
  | .whole on => !(on.contains .ascii && on.contains .unicode)
  | .within on off =>
    !(on.contains .ascii && on.contains .unicode) && !on.contains .flat &&
      off.all (fun f => !([.ascii, .unicode, .flat].contains f || on.contains f))

def readOff (on : List Flag) : List Flag → List Symbol → Option (FlagGroup × List Symbol)
  | off, .plain c :: rest =>
    match Flag.ofChar? c with
    | some f => readOff on (f :: off) rest
    | none => if c = ':' ∧ off ≠ [] then some (.within on off, rest) else none
  | _, _ => none

def readOn : List Flag → List Symbol → Option (FlagGroup × List Symbol)
  | on, .plain c :: rest =>
    match Flag.ofChar? c with
    | some f => readOn (f :: on) rest
    | none =>
      if c = '-' then readOff on [] rest
      else if on = [] then none
      else if c = ')' then some (.whole on, rest)
      else if c = ':' then some (.within on [], rest)
      else none
  | _, _ => none

def read? (rest : List Symbol) : Option (FlagGroup × List Symbol) :=
  (readOn [] rest).filter (·.1.lawful)

end FlagGroup

structure Rules : Type where
  caseless : Bool := false
  multiline : Bool := false
  dotAll : Bool := false
  verbose : Bool := false
  ascii : Bool := false
  deriving DecidableEq

namespace Rules

def turn (rules : Rules) (on off : List Flag) : Rules where
  caseless := (rules.caseless || on.contains .caseless) && !off.contains .caseless
  multiline := (rules.multiline || on.contains .multiline) && !off.contains .multiline
  dotAll := (rules.dotAll || on.contains .dotAll) && !off.contains .dotAll
  verbose := (rules.verbose || on.contains .verbose) && !off.contains .verbose
  ascii := (rules.ascii || on.contains .ascii) && !on.contains .unicode

def folding (rules : Rules) : Folding :=
  if rules.caseless then if rules.ascii then .ascii else .unicode else .exact

def literal (rules : Rules) (n : Nat) : CharSet := .literal rules.folding n

def named (rules : Rules) (kind : Shorthand) (negated : Bool) : CharSet :=
  .listed rules.folding false [.named kind rules.ascii negated]

def dot (rules : Rules) : CharSet := if rules.dotAll then .everything else .noNewline

def caret (rules : Rules) : Anchor := if rules.multiline then .lineStart else .textStart

def dollar (rules : Rules) : Anchor := if rules.multiline then .lineEnd else .finalEnd

end Rules

end EdgeSieve.Regex.Written
