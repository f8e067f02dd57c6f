import EdgeSieve.Regex.Written.Rules

namespace EdgeSieve.Regex.Written

inductive Fault : Type
  | malformed : Fault
  | countTooLarge : Fault
  | countTooLong : Nat → Fault
  | flagsConflict : Fault
  deriving DecidableEq

namespace Count

def bound : Nat := 4294967295

def maxDigits : Nat := 4300

end Count

def Fault.message : Fault → String
  | .malformed => "Input should be a valid regular expression"
  | .countTooLarge => "the repetition number is too large"
  | .countTooLong digits =>
    s!"Exceeds the limit ({Count.maxDigits} digits) for integer string conversion: " ++
      s!"value has {digits} digits; use sys.set_int_max_str_digits() to increase the limit"
  | .flagsConflict => "ASCII and UNICODE flags are incompatible"

namespace Count

def written? (rest : List Symbol) : Option (List Char × List Char × List Symbol) :=
  match rest with
  | .plain '\x7d' :: _ => none
  | _ =>
    match digits rest with
    | (lo, .plain ',' :: rest) =>
      match digits rest with
      | (hi, .plain '\x7d' :: rest) => some (lo, hi, rest)
      | _ => none
    | (lo, .plain '\x7d' :: rest) => some (lo, lo, rest)
    | _ => none

def checked (written : List Char) : Except Fault (Option Nat) :=
  if maxDigits < written.length then .error (.countTooLong written.length)
  else
    match number? written with
    | none => .ok none
    | some n => if bound ≤ n then .error .countTooLarge else .ok (some n)

def ofWritten (lo hi : List Char) : Except Fault (Nat × Option Nat) :=
  match checked lo, checked hi with
  | .error fault, _ => .error fault
  | _, .error fault => .error fault
  | .ok least, .ok none => .ok (least.getD 0, none)
  | .ok least, .ok (some most) =>
    if most < least.getD 0 then .error .malformed else .ok (least.getD 0, some most)

def greed : List Symbol → Greed × List Symbol
  | .plain '?' :: rest => (.lazy, rest)
  | .plain '+' :: rest => (.possessive, rest)
  | rest => (.greedy, rest)

end Count

end EdgeSieve.Regex.Written
