import EdgeSieve.Proofs.Text.Splitting
import EdgeSieve.Text.Quoted
import Mathlib.Algebra.Group.Nat.Defs
import Mathlib.Tactic.SplitIfs

/-!
Quoted texts read back. What stands for a character can be read without knowing which quote is in
use, and never begins with that quote; so a quoted text ends at its first bare quote, whatever
follows it, and no two texts are quoted alike. All of it is printable, hence one line.
-/

namespace EdgeSieve.Text

def digitValue (c : Char) : Nat :=
  if c.toNat < 'a'.toNat then c.toNat - '0'.toNat else c.toNat - 'a'.toNat + 10

def hexValue (digits : List Char) : Nat := digits.foldl (fun n d => n * 16 + digitValue d) 0

theorem digitValue_hexDigit : ∀ n < 16, digitValue (hexDigit n) = n := by decide

def Printable (text : List Char) : Prop := ∀ c ∈ text, Unicode.isPrintable c = true

instance (text : List Char) : Decidable (Printable text) := List.decidableBAll _ text

theorem Printable.append {s t : List Char} (hs : Printable s) (ht : Printable t) :
    Printable (s ++ t) :=
  List.forall_mem_append.mpr ⟨hs, ht⟩

theorem Printable.newline_not_mem {text : List Char} (h : Printable text) : '\n' ∉ text := by
  intro found
  simpa only [Unicode.isPrintable_newline, Bool.false_eq_true] using h _ found

theorem Printable.carriageReturn_not_mem {text : List Char} (h : Printable text) :
    '\r' ∉ text := by
  intro found
  simpa only [Unicode.isPrintable_carriageReturn, Bool.false_eq_true] using h _ found

theorem printable_hexDigit : ∀ n < 16, Printable [hexDigit n] := by decide

@[simp] theorem length_hexadecimal (width n : Nat) : (hexadecimal width n).length = width := by
  induction width generalizing n with
  | zero => rfl
  | succ width ih => simp [hexadecimal, ih]

theorem hexValue_concat (digits : List Char) (d : Char) :
    hexValue (digits ++ [d]) = hexValue digits * 16 + digitValue d := by
  simp [hexValue]

theorem hexValue_hexadecimal (width n : Nat) :
    hexValue (hexadecimal width n) = n % 16 ^ width := by
  induction width generalizing n with
  | zero => simp [hexadecimal, hexValue, Nat.mod_one]
  | succ width ih =>
    have last : digitValue (hexDigit (n % 16)) = n % 16 :=
      digitValue_hexDigit _ (Nat.mod_lt n (by decide))
    rw [hexadecimal, hexValue_concat, ih, last, Nat.pow_succ', Nat.mod_mul, Nat.add_comm,
      Nat.mul_comm]

theorem printable_hexadecimal (width n : Nat) : Printable (hexadecimal width n) := by
  induction width generalizing n with
  | zero => exact List.forall_mem_nil _
  | succ width ih => exact (ih _).append (printable_hexDigit _ (Nat.mod_lt n (by decide)))

namespace Quoted

def widths : List (Char × Nat) := [('x', 2), ('u', 4), ('U', 8)]

inductive Written (quote : Char) : Char → List Char → Prop
  | marked {c : Char} : c = quote ∨ c = '\\' → Written quote c ['\\', c]
  | newline : Written quote '\n' ['\\', 'n']
  | tab : Written quote '\t' ['\\', 't']
  | carriageReturn : Written quote '\r' ['\\', 'r']
  | plain {c : Char} : c ≠ quote → c ≠ '\\' → Unicode.isPrintable c = true → Written quote c [c]
  | coded {c letter : Char} {width : Nat} : (letter, width) ∈ widths → c.toNat < 16 ^ width →
      Written quote c ('\\' :: letter :: hexadecimal width c.toNat)

theorem written_escape (quote c : Char) : Written quote c (escape c) := by
  unfold escape
  split
  · next byte => exact .coded (by decide) byte
  · split
    · next short => exact .coded (by decide) short
    · exact .coded (by decide) c.val.toNat_lt

theorem written_encodeChar (quote c : Char) : Written quote c (encodeChar quote c) := by
  unfold encodeChar
  split_ifs with mark newline tab carriageReturn printable
  · exact .marked mark
  · exact newline ▸ .newline
  · exact tab ▸ .tab
  · exact carriageReturn ▸ .carriageReturn
  · exact .plain (not_or.mp mark).1 (not_or.mp mark).2 printable
  · exact written_escape quote c

def quotes : List Char := ['\'', '"']

theorem mem_quotes {quote : Char} : quote ∈ quotes ↔ quote = '\'' ∨ quote = '"' := by
  simp [quotes]

theorem printable_quote {quote : Char} (isQuote : quote ∈ quotes) : Printable [quote] := by
  rcases mem_quotes.mp isQuote with rfl | rfl
  · decide
  · decide

theorem quoteFor_mem_quotes (text : List Char) : quoteFor text ∈ quotes := by
  unfold quoteFor
  split
  · decide
  · decide

def readCodePoint (width : Nat) (text : List Char) : Char × List Char :=
  (.ofNat (hexValue (text.take width)), text.drop width)

def readEscape (c : Char) (rest : List Char) : Char × List Char :=
  if c = 'n' then ('\n', rest)
  else if c = 't' then ('\t', rest)
  else if c = 'r' then ('\r', rest)
  else match widths.lookup c with
    | some width => readCodePoint width rest
    | none => (c, rest)

def readChar : List Char → Option (Char × List Char)
  | [] => none
  | [c] => some (c, [])
  | c :: d :: rest => some (if c = '\\' then readEscape d rest else (c, d :: rest))

theorem readChar_of_ne {c : Char} (plain : c ≠ '\\') (rest : List Char) :
    readChar (c :: rest) = some (c, rest) := by
  cases rest with
  | nil => rfl
  | cons d rest => rw [readChar, if_neg plain]

theorem readCodePoint_hexadecimal {width : Nat} {c : Char} (small : c.toNat < 16 ^ width)
    (rest : List Char) : readCodePoint width (hexadecimal width c.toNat ++ rest) = (c, rest) := by
  have taken : (hexadecimal width c.toNat ++ rest).take width = hexadecimal width c.toNat :=
    List.take_left' (length_hexadecimal _ _)
  have dropped : (hexadecimal width c.toNat ++ rest).drop width = rest :=
    List.drop_left' (length_hexadecimal _ _)
  rw [readCodePoint, taken, dropped, hexValue_hexadecimal, Nat.mod_eq_of_lt small,
    Char.ofNat_toNat]

theorem readEscape_of_mem_widths {letter : Char} {width : Nat} (h : (letter, width) ∈ widths)
    (rest : List Char) : readEscape letter rest = readCodePoint width rest := by
  simp only [widths, List.mem_cons, List.not_mem_nil, or_false, Prod.mk.injEq] at h
  rcases h with ⟨rfl, rfl⟩ | ⟨rfl, rfl⟩ | ⟨rfl, rfl⟩ <;> rfl

variable {quote c : Char} {text : List Char}

theorem Written.readChar_append (h : Written quote c text) (isQuote : quote ∈ quotes)
    (rest : List Char) : readChar (text ++ rest) = some (c, rest) := by
  cases h with
  | marked mark =>
    -- No quote is a letter that means something else after a backslash.
    rcases mark with rfl | rfl
    · rcases mem_quotes.mp isQuote with rfl | rfl
      · rfl
      · rfl
    · rfl
  | newline => rfl
  | tab => rfl
  | carriageReturn => rfl
  | plain _ other _ => exact readChar_of_ne other rest
  | @coded _ letter width given small =>
    calc
      readChar ('\\' :: letter :: (hexadecimal width c.toNat ++ rest))
      _ = some (readEscape letter (hexadecimal width c.toNat ++ rest)) := rfl
      _ = some (c, rest) := by
        rw [readEscape_of_mem_widths given, readCodePoint_hexadecimal small]

theorem Written.ne_quote (h : Written quote c text) (isQuote : quote ∈ quotes)
    (u v : List Char) : text ++ u ≠ quote :: v := by
  have bare : '\\' ≠ quote := by
    rintro rfl
    exact absurd isQuote (by decide)
  cases h with
  | plain other _ _ => exact fun same => other (List.cons.inj same).1
  | marked | newline | tab | carriageReturn | coded =>
    exact fun same => bare (List.cons.inj same).1

theorem Written.printable (h : Written quote c text) (isQuote : quote ∈ quotes) :
    Printable text := by
  cases h with
  | marked mark =>
    rcases mark with rfl | rfl
    · have backslash : Printable ['\\'] := by decide
      exact backslash.append (printable_quote isQuote)
    · decide
  | newline => decide
  | tab => decide
  | carriageReturn => decide
  | plain _ _ printable => exact List.forall_mem_singleton.mpr printable
  | coded given _ =>
    have letters : ∀ entry ∈ widths, Printable ['\\', entry.1] := by decide
    exact (letters _ given).append (printable_hexadecimal _ _)

theorem encodeChar_free (isQuote : quote ∈ quotes) : PrefixFree (encodeChar quote) :=
  .of_read readChar fun c => (written_encodeChar quote c).readChar_append isQuote

/-- Quoted texts end where they end: the quote in use is the first character, and a text ends where
it stands bare again. -/
theorem encode_free : PrefixFree encode := by
  intro s t u v same
  obtain ⟨quotes_same, rest⟩ := List.cons.inj same
  have isQuote := quoteFor_mem_quotes t
  -- Both texts are in the same quotes, so each ends where that quote stands bare.
  rw [quotes_same] at rest
  refine (encodeChar_free isQuote).flatMap_stop (fun c => ?_) s t u v rest
  exact (written_encodeChar _ c).ne_quote isQuote

theorem printable_encode (text : List Char) : Printable (encode text) := by
  have isQuote := quoteFor_mem_quotes text
  have body : Printable (text.flatMap (encodeChar (quoteFor text))) := by
    intro d found
    obtain ⟨c, _, found⟩ := List.mem_flatMap.mp found
    exact (written_encodeChar _ c).printable isQuote d found
  have around := printable_quote isQuote
  exact around.append (body.append around)

end Quoted

theorem toList_quoted (text : String) : (quoted text).toList = Quoted.encode text.toList :=
  String.toList_ofList

theorem quoted_free : PrefixFree fun text => (quoted text).toList := by
  simp only [toList_quoted]
  exact Quoted.encode_free.comp fun _ _ same => String.ext same

theorem quoted_ne_bracket (text : String) (u v : List Char) :
    (quoted text).toList ++ u ≠ ']' :: v := by
  rw [toList_quoted]
  intro same
  have isQuote := Quoted.quoteFor_mem_quotes text.toList
  rw [(List.cons.inj same).1] at isQuote
  exact absurd isQuote (by decide)

theorem printable_quoted (text : String) : Printable (quoted text).toList :=
  toList_quoted text ▸ Quoted.printable_encode _

def listed (text : String) : List Char := [',', ' '] ++ (quoted text).toList

def items : List String → List Char
  | [] => [']']
  | first :: others => (quoted first).toList ++ (others.flatMap listed ++ [']'])

theorem intercalate_cons {α : Type} (between first : List α) (others : List (List α)) :
    between.intercalate (first :: others) = first ++ others.flatMap (between ++ ·) := by
  induction others generalizing first with
  | nil => simp
  | cons second others ih => simp [List.intercalate_cons_cons, ih]

theorem toList_quotedList (texts : List String) :
    (quotedList texts).toList = ['['] ++ items texts := by
  cases texts with
  | nil => rfl
  | cons first others =>
    have joined : (", ".intercalate ((first :: others).map quoted)).toList =
        (quoted first).toList ++ others.flatMap listed := by
      rw [String.toList_intercalate, List.map_map, List.map_cons, intercalate_cons,
        List.flatMap_map]
      rfl
    have opening : "[".toList = ['['] := rfl
    have closing : "]".toList = [']'] := rfl
    rw [quotedList, String.toList_append, String.toList_append, joined, opening, closing,
      List.append_assoc, List.append_assoc, items]

theorem items_free : PrefixFree items := by
  have others_free : PrefixFree fun others : List String => others.flatMap listed ++ [']'] :=
    (quoted_free.after [',', ' ']).flatMap_stop fun _ _ _ same => by cases same
  have longer : ∀ x xs u v, items (x :: xs) ++ u ≠ ']' :: v := by
    intro x xs u v
    rw [items, List.append_assoc]
    exact quoted_ne_bracket x _ v
  intro xs ys u v same
  cases xs with
  | nil =>
    cases ys with
    | nil => exact ⟨rfl, (List.cons.inj same).2⟩
    | cons y ys => exact absurd same.symm (longer y ys v u)
  | cons x xs =>
    cases ys with
    | nil => exact absurd same (longer x xs u v)
    | cons y ys =>
      rw [items, items, List.append_assoc (quoted x).toList,
        List.append_assoc (quoted y).toList] at same
      obtain ⟨rfl, rest⟩ := quoted_free x y _ _ same
      obtain ⟨rfl, rfl⟩ := others_free xs ys u v rest
      exact ⟨rfl, rfl⟩

theorem quotedList_free : PrefixFree fun texts => (quotedList texts).toList := by
  simp only [toList_quotedList]
  exact items_free.after ['[']

theorem printable_items (texts : List String) : Printable (items texts) := by
  cases texts with
  | nil => decide
  | cons first others =>
    have later : Printable (others.flatMap listed) := by
      intro d found
      obtain ⟨text, _, found⟩ := List.mem_flatMap.mp found
      exact Printable.append (by decide) (printable_quoted text) d found
    exact (printable_quoted first).append (later.append (by decide))

theorem printable_quotedList (texts : List String) : Printable (quotedList texts).toList := by
  rw [toList_quotedList]
  exact Printable.append (by decide) (printable_items texts)

end EdgeSieve.Text
