import EdgeSieve.Proofs.Text.Splitting

namespace EdgeSieve

open Text (LastSplit)

namespace ClassName

variable {a b : Char} {text : String}

theorem toList_swap : (swap a b text).toList = text.toList.map fun c => if c = a then b else c :=
  String.toList_map

theorem dots_append (s t : String) : dots (s ++ t) = dots s ++ dots t := by
  apply String.ext
  simp [dots, toList_swap]

theorem not_mem_swap (differ : a ≠ b) : a ∉ (swap a b text).toList := by
  rw [toList_swap, List.mem_map]
  rintro ⟨c, _, same⟩
  split at same
  · exact differ same.symm
  · next other => exact other same

theorem swap_of_not_mem (h : a ∉ text.toList) : swap a b text = text := by
  apply String.ext
  have kept : ∀ c ∈ text.toList, (if c = a then b else c) = id c := by
    intro c found
    refine if_neg ?_
    rintro rfl
    exact h found
  rw [toList_swap, List.map_congr_left kept, List.map_id]

theorem swap_eq_self_iff (differ : a ≠ b) : swap a b text = text ↔ a ∉ text.toList := by
  constructor
  · intro same
    rw [← same]
    exact not_mem_swap differ
  · exact swap_of_not_mem

theorem swap_swap : swap b a (swap a b text) = swap b a text := by
  apply String.ext
  rw [toList_swap, toList_swap, toList_swap, List.map_map]
  apply List.map_congr_left
  intro c _
  by_cases first : c = a
  · subst first
    simp
  · simp [first]

theorem lastSplit_swap {front last : String} (h : LastSplit a text front last)
    (absent : b ∉ text.toList) : LastSplit b (swap a b text) (swap a b front) last := by
  have last_same : last.toList.map (fun c => if c = a then b else c) = last.toList := by
    rw [← toList_swap, swap_of_not_mem h.ended]
  refine ⟨?_, ?_⟩
  · rw [toList_swap, h.whole, List.map_append, List.map_cons, last_same, if_pos rfl, toList_swap]
  · intro found
    apply absent
    rw [h.whole]
    exact List.mem_append_right _ (List.mem_cons_of_mem _ found)

variable {c : ClassName} {front last : String}

theorem dotted_ofDotted : (ofDotted text).dotted = dots text := swap_swap

theorem ofDotted_dotted : ofDotted c.dotted = ofDotted c.binary := congrArg mk swap_swap

theorem package_of_lastSplit (h : LastSplit '/' c.binary front last) : c.package = dots front := by
  rw [package, h.beforeLast_eq, String.ofList_toList]

theorem dotted_of_lastSplit (h : LastSplit '/' c.binary front last) :
    c.dotted = c.package ++ "." ++ last := by
  have whole : c.binary = front ++ "/" ++ last := by
    apply String.ext
    rw [h.whole, String.toList_append, String.toList_append, List.append_assoc]
    rfl
  have separator : dots "/" = "." := by decide +kernel
  have last_same : dots last = last := swap_of_not_mem h.ended
  rw [package_of_lastSplit h, dotted, whole, dots_append, dots_append, separator, last_same]

theorem package_of_not_mem (h : '/' ∉ c.binary.toList) : c.package = "" := by
  rw [package, beforeLast_of_not_mem h, String.ofList_nil]
  exact swap_of_not_mem (by simp)

theorem package_ofDotted (h : LastSplit '.' text front last) (unslashed : '/' ∉ text.toList) :
    (ofDotted text).package = front := by
  have front_unslashed : '/' ∉ front.toList := by
    intro found
    apply unslashed
    rw [h.whole]
    exact List.mem_append_left _ found
  have split : LastSplit '/' (ofDotted text).binary (swap '.' '/' front) last :=
    lastSplit_swap h unslashed
  rw [package_of_lastSplit split, dots, swap_swap]
  exact swap_of_not_mem front_unslashed

end ClassName

open ClassName

/-- The dotted name of a class is its package, a dot and what stands after the last slash; without
a slash it is the name itself, in the unnamed package. Read again, it means the same class just when
there was no dot before, and a dotted name is that of the class it means just when it has no slash.
Then its package is what stands before the last dot, and no two such names mean the same class. -/
theorem class_names_convert :
    (∀ c : ClassName, '/' ∉ c.dotted.toList) ∧
      (∀ c : ClassName, '/' ∈ c.binary.toList → ∃ front last,
        LastSplit '/' c.binary front last ∧ c.dotted = c.package ++ "." ++ last) ∧
      (∀ c : ClassName, '/' ∉ c.binary.toList → c.package = "" ∧ c.dotted = c.binary) ∧
      (∀ c : ClassName, ofDotted c.dotted = c ↔ '.' ∉ c.binary.toList) ∧
      (∀ text, (ofDotted text).dotted = text ↔ '/' ∉ text.toList) ∧
      (∀ text : String, '/' ∉ text.toList → '.' ∈ text.toList →
        ∃ last, LastSplit '.' text (ofDotted text).package last) ∧
      (∀ text : String, '/' ∉ text.toList → '.' ∉ text.toList → (ofDotted text).package = "") ∧
      (∀ text other : String, '/' ∉ text.toList → '/' ∉ other.toList →
        (ofDotted text = ofDotted other ↔ text = other)) := by
  have back : ∀ text, (ofDotted text).dotted = text ↔ '/' ∉ text.toList := by
    intro text
    rw [dotted_ofDotted]
    exact swap_eq_self_iff (by decide)
  refine ⟨?_, ?_, ?_, ?_, back, ?_, ?_, ?_⟩
  · intro c
    exact not_mem_swap (by decide)
  · intro c slashed
    obtain ⟨front, last, split⟩ := LastSplit.exists_of_mem slashed
    exact ⟨front, last, split, dotted_of_lastSplit split⟩
  · intro c unslashed
    exact ⟨package_of_not_mem unslashed, swap_of_not_mem unslashed⟩
  · intro c
    rw [ofDotted_dotted]
    cases c
    simp only [ofDotted, mk.injEq]
    exact swap_eq_self_iff (by decide)
  · intro text unslashed dotted
    obtain ⟨front, last, split⟩ := LastSplit.exists_of_mem dotted
    refine ⟨last, ?_⟩
    rw [package_ofDotted split unslashed]
    exact split
  · intro text unslashed undotted
    apply package_of_not_mem
    rw [ofDotted, swap_of_not_mem undotted]
    exact unslashed
  · intro text other unslashed unslashed'
    constructor
    · intro same
      rw [← (back text).mpr unslashed, same, (back other).mpr unslashed']
    · exact congrArg ofDotted

theorem class_names_convert_sample :
    '/' ∈ "/a//b.c/".toList ∧
      (∃ front last, LastSplit '/' "/a//b.c/" front last ∧
        (mk "/a//b.c/").dotted = (mk "/a//b.c/").package ++ "." ++ last) ∧
      '/' ∉ "b.c".toList ∧ (mk "b.c").package = "" ∧ (mk "b.c").dotted = "b.c" ∧
      '.' ∈ ".a..".toList ∧ (∃ last, LastSplit '.' ".a.." (ofDotted ".a..").package last) ∧
      '.' ∉ "Main".toList ∧ (ofDotted "Main").package = "" ∧
      (ofDotted ".a.." = ofDotted "Main" ↔ ".a.." = "Main") := by
  obtain ⟨-, divided, whole, -, -, nested, unnamed, apart⟩ := class_names_convert
  obtain ⟨package, dotted⟩ := whole (mk "b.c") (by decide)
  refine ⟨by decide, divided (mk "/a//b.c/") (by decide), by decide, package, dotted, by decide,
    nested ".a.." (by decide) (by decide), by decide, ?_, ?_⟩
  · exact unnamed "Main" (by decide) (by decide)
  · exact apart ".a.." "Main" (by decide) (by decide)

end EdgeSieve
