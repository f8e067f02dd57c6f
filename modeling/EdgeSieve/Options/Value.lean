namespace EdgeSieve

inductive Value : Type
  | null : Value
  | bool : Bool → Value
  | int : Int → Value
  | real : Float → Value
  | text : String → Value
  | list : List Value → Value
  | record : List (String × Value) → Value
  deriving Inhabited

namespace Value

def trueWords : List String := ["1", "true", "t", "on", "y", "yes"]

def falseWords : List String := ["0", "false", "f", "off", "n", "no"]

def truth? (word : String) : Option Bool :=
  let word := word.map Char.toLower
  if trueWords.contains word then some true
  else if falseWords.contains word then some false
  else none

def isWord (n : Int) : Bool := -9223372036854775808 ≤ n && n ≤ 9223372036854775807

def isWholeWord (x : Float) : Bool := x.floor == x && x.abs < 9223372036854775808.0

end Value

end EdgeSieve
