import EdgeSieve.Options.Check
import EdgeSieve.Text.LowerCase
import EdgeSieve.Unicode.Ranges

namespace EdgeSieve

namespace Environment

abbrev Assignments : Type := List (String × Option String)

def variableName : String := "depfilter_" ++ Field.nested.name

def trim (text : List Char) : List Char :=
  ((text.dropWhile Unicode.isBlank).reverse.dropWhile Unicode.isBlank).reverse

def lines : List Char → List (List Char)
  | [] => [[]]
  | c :: rest =>
    match lines rest with
    | [] => [[c]]
    | line :: later => if c = '\n' ∨ c = '\r' then [] :: line :: later else (c :: line) :: later

def withoutComment : List Char → List Char
  | [] => []
  | [c] => [c]
  | c :: d :: rest =>
    if Unicode.isBlank c && d == '#' then [] else c :: withoutComment (d :: rest)

/-- The name and value that a line assigns. Blank lines and comments assign none, and neither does
a line whose name is no single word. -/
def assignment? (line : List Char) : Option (String × Option String) :=
  let name := trim (line.takeWhile fun c => c ≠ '=' ∧ c ≠ '#')
  if name = [] || name.any Unicode.isBlank then none
  else
    match line.dropWhile fun c => c ≠ '=' ∧ c ≠ '#' with
    | '=' :: value => some (.ofList name, some (.ofList (trim (withoutComment value))))
    | _ => some (.ofList name, none)

def assign (pairs : Assignments) (name : String) (value : Option String) : Assignments :=
  match pairs with
  | [] => [(name, value)]
  | (n, v) :: rest =>
    if n = name then (name, value) :: rest else (n, v) :: assign rest name value

/-- Each name once, where it stood first, with the value it was given last. -/
def settled (pairs : Assignments) : Assignments :=
  pairs.foldl (fun done (name, value) => assign done name value) []

def lowered (pairs : Assignments) : Assignments :=
  settled (pairs.map fun (name, value) => (Text.lowerCase name, value))

def withoutMark : List Char → List Char
  | '\uFEFF' :: rest => rest
  | text => text

def assignments (text : String) : Assignments :=
  settled ((lines (withoutMark text.toList)).filterMap assignment?)

/-- Whether an assignment is to a foreign name: neither the variable nor the option it is the usual
value of. An empty value is as none. -/
def isForeign (name : String) (value : Option String) : Bool :=
  name ≠ variableName && name ≠ Field.nested.name && value.any (· ≠ "")

def foreign (pairs : Assignments) : Checked Unit :=
  match pairs.filter fun (name, value) => isForeign name value with
  | [] => .good ()
  | found => .bad (found.map fun (name, _) => ⟨.variable name, .foreign⟩)

def nested (given : List (String × String)) (text : Option String) : Checked Bool :=
  let own := lowered (given.map fun (name, value) => (name, some value))
  let written := lowered ((text.map assignments).getD [])
  let value? := (own.lookup variableName).join.or (written.lookup variableName).join
  ((value?.map (Field.nested.word)).getD (.good false)).both (foreign written) |>.map (·.1)

end Environment

end EdgeSieve
