import EdgeSieve.Unicode.UpperCase
import EdgeSieve.Unicode.Word

/-!
Sets of characters, as a pattern names them: everything, all but newlines, one character, or a list
of characters, spans and named classes. `Folding` says which characters count as equal.

One character is always compared up to the folding. In a list that holds for the basic plane only:
beyond it, characters are listed in the form in which texts are compared, and a capital that is
listed by itself is met by no text.
-/

namespace EdgeSieve

inductive Folding : Type
  | exact : Folding
  | ascii : Folding
  | unicode : Folding
  deriving DecidableEq

namespace Folding

def variants : Folding → Nat → List Nat
  | .exact, n => [n]
  | .ascii, n => Unicode.asciiVariants n
  | .unicode, n => Unicode.caseVariants n

def key : Folding → Nat → Nat
  | .exact, n => n
  | .ascii, n => Unicode.asciiLower n
  | .unicode, n => Unicode.lower n

/-- The forms in which a character is looked for in a span that reaches beyond the basic plane. -/
def forms (fold : Folding) (n : Nat) : List Nat :=
  match fold with
  | .exact => [n]
  | _ => [fold.key n, Unicode.upper (fold.key n)]

end Folding

inductive Shorthand : Type
  | digit : Shorthand
  | blank : Shorthand
  | word : Shorthand
  deriving DecidableEq

namespace Shorthand

def asciiDigit (c : Char) : Bool := c.isDigit

def asciiBlank (c : Char) : Bool := c == ' ' || ('\t' ≤ c && c ≤ '\r')

def asciiWord (c : Char) : Bool := c == '_' || c.isAlphanum

def holds (ascii : Bool) : Shorthand → Char → Bool
  | .digit, c => if ascii then asciiDigit c else Unicode.isDecimal c
  | .blank, c => if ascii then asciiBlank c else Unicode.isBlank c
  | .word, c => if ascii then asciiWord c else Unicode.isWord c

end Shorthand

def basicPlane : Nat := 0x10000

inductive CharItem : Type
  | literal : Nat → CharItem
  | span : Nat → Nat → CharItem
  | named : Shorthand → (ascii : Bool) → (negated : Bool) → CharItem
  deriving DecidableEq

namespace CharItem

def within (lo hi n : Nat) : Bool := decide (lo ≤ n) && decide (n ≤ hi)

def contains (fold : Folding) : CharItem → Char → Bool
  | .literal n, c =>
    if n < basicPlane then (fold.variants c.toNat).contains n else fold.key c.toNat == n
  | .span lo hi, c =>
    (fold.variants c.toNat).any (fun n => within lo hi n && decide (n < basicPlane)) ||
      decide (basicPlane ≤ hi) && (fold.forms c.toNat).any (within lo hi)
  | .named kind ascii negated, c => kind.holds ascii c != negated

end CharItem

inductive CharSet : Type
  | everything : CharSet
  | noNewline : CharSet
  | single : Folding → (negated : Bool) → Nat → CharSet
  | listed : Folding → (negated : Bool) → List CharItem → CharSet
  deriving DecidableEq

namespace CharSet

def literal (fold : Folding) (n : Nat) : CharSet := .single fold false n

/-- The set of some members, or the characters outside it. Of equal members one counts, and a code
point that is the only member is one character. -/
def ofItems (fold : Folding) (negated : Bool) (items : List CharItem) : CharSet :=
  match items.eraseDups with
  | [.literal n] => .single fold negated n
  | items => .listed fold negated items

def items? : CharSet → Option (List CharItem)
  | .single _ false n => some [.literal n]
  | .listed _ false items => some items
  | _ => none

def contains : CharSet → Char → Bool
  | .everything, _ => true
  | .noNewline, c => c != '\n'
  | .single fold negated n, c => (fold.variants c.toNat).contains n != negated
  | .listed fold negated items, c => items.any (·.contains fold c) != negated

theorem contains_literal_exact (c d : Char) :
    (literal .exact c.toNat).contains d = decide (d = c) := by
  have same : d = c ↔ c.toNat = d.toNat :=
    ⟨fun h => h ▸ rfl, fun h => Char.ext (UInt32.toNat_inj.mp h.symm)⟩
  simp [literal, contains, Folding.variants, same]

end CharSet

end EdgeSieve
