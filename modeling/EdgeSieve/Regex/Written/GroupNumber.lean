import EdgeSieve.Regex.CharSet

namespace EdgeSieve.Regex.Written.GroupNumber

def bound : Nat := 1073741823

/-- Blanks around a number: those of ASCII that part words, and all beyond ASCII. -/
def isMargin (c : Char) : Bool :=
  Shorthand.asciiBlank c || decide (128 ≤ c.toNat) && Unicode.isBlank c

def digitsAfter (n : Nat) : List Char → Option Nat
  | [] => some n
  | '_' :: c :: rest => (Unicode.decimalValue? c).bind fun d => digitsAfter (n * 10 + d) rest
  | c :: rest => (Unicode.decimalValue? c).bind fun d => digitsAfter (n * 10 + d) rest

def digits? : List Char → Option Nat
  | [] => none
  | c :: rest => (Unicode.decimalValue? c).bind fun d => digitsAfter d rest

def read? (text : List Char) : Option Nat :=
  let inner := ((text.dropWhile isMargin).reverse.dropWhile isMargin).reverse
  let n? :=
    match inner with
    | '+' :: rest => digits? rest
    | rest => digits? rest
  n?.filter fun n => 0 < n && n < bound

end EdgeSieve.Regex.Written.GroupNumber
