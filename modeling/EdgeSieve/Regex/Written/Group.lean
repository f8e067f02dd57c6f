import EdgeSieve.Regex.Written.Rules

namespace EdgeSieve.Regex.Written

inductive Opening : Type
  | bare : Opening
  | capture : (name : Option (List Char)) → Opening
  | within : (on off : List Flag) → Opening
  | atomic : Opening
  | look : (behind wanted : Bool) → Opening
  | given : (name : List Char) → Opening
  deriving DecidableEq

inductive Parenthesis : Type
  | group : Opening → Parenthesis
  | recall : (name : List Char) → Parenthesis
  | flags : List Flag → Parenthesis
  | comment : Parenthesis
  deriving DecidableEq

namespace Parenthesis

def read? : List Symbol → Option (Parenthesis × List Symbol)
  | .plain '?' :: rest =>
    match rest with
    | .plain 'P' :: .plain '<' :: rest =>
      (upTo? '>' rest).map fun (name, rest) => (.group (.capture (some name)), rest)
    | .plain 'P' :: .plain '=' :: rest =>
      (upTo? ')' rest).map fun (name, rest) => (.recall name, rest)
    | .plain ':' :: rest => some (.group .bare, rest)
    | .plain '#' :: rest => (after? ')' rest).map fun rest => (.comment, rest)
    | .plain '=' :: rest => some (.group (.look false true), rest)
    | .plain '!' :: rest => some (.group (.look false false), rest)
    | .plain '<' :: .plain '=' :: rest => some (.group (.look true true), rest)
    | .plain '<' :: .plain '!' :: rest => some (.group (.look true false), rest)
    | .plain '(' :: rest => (upTo? ')' rest).map fun (name, rest) => (.group (.given name), rest)
    | .plain '>' :: rest => some (.group .atomic, rest)
    | rest =>
      match FlagGroup.read? rest with
      | some (.whole on, rest) => some (.flags on, rest)
      | some (.within on off, rest) => some (.group (.within on off), rest)
      | none => none
  | rest => some (.group (.capture none), rest)

end Parenthesis

end EdgeSieve.Regex.Written
