import EdgeSieve.Unicode.Case
import EdgeSieve.Unicode.Cased

/-!
Lower case of a text. A character has one lower case, but for the dotted capital I, which becomes
two characters, and the capital sigma, which is written in another way at the end of a word.
-/

namespace EdgeSieve.Text

open Unicode

def endsWord (before after : List Char) : Bool :=
  (before.dropWhile isCaseIgnorable).head?.any isCased &&
    !(after.dropWhile isCaseIgnorable).head?.any isCased

def lowerAt (before after : List Char) (c : Char) : List Char :=
  if c = '\u0130' then ['i', '\u0307']
  else if c = '\u03a3' then [if endsWord before after then '\u03c2' else '\u03c3']
  else [.ofNat (lower c.toNat)]

def lowerAfter (before : List Char) : List Char → List Char
  | [] => []
  | c :: rest => lowerAt before rest c ++ lowerAfter (c :: before) rest

def lowerCase (text : String) : String := .ofList (lowerAfter [] text.toList)

end EdgeSieve.Text
