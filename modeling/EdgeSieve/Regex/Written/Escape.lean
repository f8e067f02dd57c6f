import EdgeSieve.Regex.Written.Rules

namespace EdgeSieve

/-- The characters that have names. Which these are is up to the edition of Unicode. -/
structure CharNames : Type where
  find? : List Char → Option Char

namespace Regex.Written

inductive Escape : Type
  | literal : Nat → Escape
  | named : Shorthand → (negated : Bool) → Escape
  | anchor : Anchor → Escape
  | recall : Nat → Escape
  deriving DecidableEq

namespace Escape

def shorthand? : Char → Option (Shorthand × Bool)
  | 'd' => some (.digit, false)
  | 'D' => some (.digit, true)
  | 's' => some (.blank, false)
  | 'S' => some (.blank, true)
  | 'w' => some (.word, false)
  | 'W' => some (.word, true)
  | _ => none

def anchor? (ascii : Bool) : Char → Option Anchor
  | 'A' => some .textStart
  | 'Z' => some .textEnd
  | 'b' => some (.boundary ascii false)
  | 'B' => some (.boundary ascii true)
  | _ => none

def control? : Char → Option Nat
  | 'a' => some 0x07
  | 'f' => some 0x0C
  | 'n' => some 0x0A
  | 'r' => some 0x0D
  | 't' => some 0x09
  | 'v' => some 0x0B
  | _ => none

def hexadecimal? (c : Char) (rest : List Symbol) : Option (Nat × List Symbol) :=
  match c with
  | 'x' => digitsExactly? 16 2 rest
  | 'u' => digitsExactly? 16 4 rest
  | 'U' => (digitsExactly? 16 8 rest).filter (·.1 ≤ 0x10FFFF)
  | _ => none

/-- A group's number or an octal code point, from the first digit on: a group's number has one
digit or two, three octal digits are a code point. -/
def groupOrOctal? (c : Char) (rest : List Symbol) : Option (Escape × List Symbol) :=
  let first := c.toNat - '0'.toNat
  match rest with
  | .plain d :: rest =>
    match digit? 10 d with
    | none => some (.recall first, .plain d :: rest)
    | some second =>
      match (digitsExactly? 8 3 (.plain c :: .plain d :: rest)) with
      | some (n, rest) => if n ≤ 0xFF then some (.literal n, rest) else none
      | none => some (.recall (first * 10 + second), rest)
  | _ => some (.recall first, rest)

variable (table : CharNames)

/-- A character by its name, which stands in braces and is not empty. -/
def byName? : List Symbol → Option (Nat × List Symbol)
  | .plain '\x7b' :: rest =>
    match upTo? '\x7d' rest with
    | some (c :: name, rest) => (table.find? (c :: name)).map fun found => (found.toNat, rest)
    | _ => none
  | _ => none

def common? (c : Char) (rest : List Symbol) : Option (Escape × List Symbol) :=
  match control? c with
  | some n => some (.literal n, rest)
  | none =>
    if c = 'x' ∨ c = 'u' ∨ c = 'U' then
      (hexadecimal? c rest).map fun (n, rest) => (.literal n, rest)
    else if c = 'N' then (byName? table rest).map fun (n, rest) => (.literal n, rest)
    else if c.isAlphanum then none
    else some (.literal c.toNat, rest)

def read? (ascii : Bool) (c : Char) (rest : List Symbol) : Option (Escape × List Symbol) :=
  match anchor? ascii c, shorthand? c with
  | some a, _ => some (.anchor a, rest)
  | _, some (kind, negated) => some (.named kind negated, rest)
  | _, _ =>
    if c = '0' then
      let (n, _, rest) := digitsUpTo 8 2 0 rest
      some (.literal n, rest)
    else if c.isDigit then groupOrOctal? c rest
    else common? table c rest

/-- Reads an escape within brackets: a backspace instead of an anchor, and no group's number. -/
def readListed? (c : Char) (rest : List Symbol) : Option (Escape × List Symbol) :=
  match shorthand? c with
  | some (kind, negated) => some (.named kind negated, rest)
  | none =>
    if c = 'b' then some (.literal 0x08, rest)
    else
      match digit? 8 c with
      | some d =>
        let (n, _, rest) := digitsUpTo 8 2 d rest
        if n ≤ 0xFF then some (.literal n, rest) else none
      | none => common? table c rest

end Escape

end Regex.Written

end EdgeSieve
