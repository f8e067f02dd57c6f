import EdgeSieve.ClassName

namespace EdgeSieve.Text

/-- What is written can be split off the front of a text in one way only. -/
def PrefixFree {α : Type} (write : α → List Char) : Prop :=
  ∀ a b u v, write a ++ u = write b ++ v → a = b ∧ u = v

namespace PrefixFree

variable {α β : Type} {write : α → List Char}

theorem injective (free : PrefixFree write) {a b : α} (same : write a = write b) : a = b :=
  (free a b [] [] (congrArg (· ++ []) same)).1

theorem of_read (read : List Char → Option (α × List Char))
    (back : ∀ a rest, read (write a ++ rest) = some (a, rest)) : PrefixFree write := by
  intro a b u v same
  have read_same : some (a, u) = some (b, v) := by rw [← back a u, same, back b v]
  exact Prod.mk.inj (Option.some.inj read_same)

theorem comp (free : PrefixFree write) {f : β → α} (injective : ∀ x y, f x = f y → x = y) :
    PrefixFree (write ∘ f) := by
  intro x y u v same
  obtain ⟨args, rest⟩ := free (f x) (f y) u v same
  exact ⟨injective x y args, rest⟩

theorem after (free : PrefixFree write) (lead : List Char) :
    PrefixFree fun a => lead ++ write a := by
  intro a b u v same
  rw [List.append_assoc, List.append_assoc, List.append_cancel_left_eq] at same
  exact free a b u v same

theorem flatMap_stop (free : PrefixFree write) {stop : Char}
    (goesOn : ∀ a u v, write a ++ u ≠ stop :: v) :
    PrefixFree fun as : List α => as.flatMap write ++ [stop] := by
  have longer : ∀ (a : α) (as : List α) (u v : List Char),
      (a :: as).flatMap write ++ [stop] ++ u ≠ stop :: v := by
    intro a as u v
    rw [List.flatMap_cons, List.append_assoc, List.append_assoc]
    exact goesOn a _ v
  intro as
  induction as with
  | nil =>
    intro bs u v same
    cases bs with
    | nil => exact ⟨rfl, (List.cons.inj same).2⟩
    | cons b bs => exact absurd same.symm (longer b bs v u)
  | cons a as ih =>
    intro bs u v same
    cases bs with
    | nil => exact absurd same (longer a as u v)
    | cons b bs =>
      simp only [List.flatMap_cons, List.append_assoc] at same
      obtain ⟨rfl, rest⟩ := free a b _ _ same
      obtain ⟨rfl, rfl⟩ := ih bs u v (by simpa only [List.append_assoc] using rest)
      exact ⟨rfl, rfl⟩

end PrefixFree

open ClassName (beforeLast beforeLast_append)

structure LastSplit (a : Char) (text front last : String) : Prop where
  whole : text.toList = front.toList ++ a :: last.toList
  ended : a ∉ last.toList

namespace LastSplit

variable {a : Char} {text front last : String}

theorem beforeLast_eq (h : LastSplit a text front last) :
    beforeLast a text.toList = front.toList := by
  rw [h.whole, beforeLast_append h.ended]

theorem unique {front' last' : String} (h : LastSplit a text front last)
    (g : LastSplit a text front' last') : front = front' ∧ last = last' := by
  have fronts : front.toList = front'.toList := by rw [← h.beforeLast_eq, g.beforeLast_eq]
  have wholes : front.toList ++ a :: last.toList = front'.toList ++ a :: last'.toList := by
    rw [← h.whole, g.whole]
  rw [fronts, List.append_cancel_left_eq, List.cons.injEq] at wholes
  exact ⟨String.ext fronts, String.ext wholes.2⟩

theorem exists_of_mem (h : a ∈ text.toList) : ∃ front last, LastSplit a text front last := by
  -- The last occurrence is the first one from behind.
  obtain ⟨after, before, whole, ended⟩ := List.eq_append_cons_of_mem (List.mem_reverse.mpr h)
  refine ⟨.ofList before.reverse, .ofList after.reverse, ?_, by simpa using ended⟩
  rw [← List.reverse_reverse text.toList, whole]
  simp

theorem of_line {line : String} (h : '\n' ∉ line.toList) :
    LastSplit '\n' (front ++ "\n" ++ line) front line := by
  refine ⟨?_, h⟩
  rw [String.toList_append, String.toList_append, List.append_assoc]
  rfl

end LastSplit

theorem append_line_inj {text other line line' : String} (h : '\n' ∉ line.toList)
    (h' : '\n' ∉ line'.toList) :
    text ++ "\n" ++ line = other ++ "\n" ++ line' ↔ text = other ∧ line = line' := by
  constructor
  · intro same
    have split : LastSplit '\n' (other ++ "\n" ++ line') text line := same ▸ .of_line h
    exact split.unique (.of_line h')
  · rintro ⟨rfl, rfl⟩
    rfl

end EdgeSieve.Text
