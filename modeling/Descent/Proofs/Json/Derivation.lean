import Descent.Json.Grammar
import Descent.Proofs.Numerals

/-!
Derivations in the language of the data format. A document is a value with blanks around it, and
blanks may stand around everything that makes up arrays and objects. A text is made of pieces,
each a character or an escape; a pair of surrogates is one piece, and a surrogate alone is none.
What the grammar cannot say, that the keys of an object differ, is asked of derivations besides.
-/
namespace Descent.Json

open Decimal (DigitRun fractionText)

/-- A character that may stand between tokens: a space, or one of the controls for tabs and ends
of lines. -/
def isSpace (c : Char) : Bool :=
  Text.Category.spaceSeparator.chars.contains c || ['\t', '\r', '\n'].contains c

structure Blanks where
  text : List Char
  all : ∀ c ∈ text, isSpace c = true

theorem Members.contains_iff {α : Type} (m : Members α) (key : String) :
    m.contains key = true ↔ key ∈ m.keys := by
  simp only [contains, keys, List.any_eq_true, beq_iff_eq, List.mem_map]

theorem Members.contains_eq_false_iff {α : Type} (m : Members α) (key : String) :
    m.contains key = false ↔ key ∉ m.keys := by
  rw [← m.contains_iff, Bool.not_eq_true]

theorem Members.insert_of_not_mem {α : Type} {m : Members α} {key : String} (h : key ∉ m.keys)
    (value : α) : m.insert key value = .ok ⟨m.entries ++ [(key, value)]⟩ := by
  unfold insert
  rw [(m.contains_eq_false_iff key).mpr h]
  rfl

theorem Members.not_mem_of_nodup {α : Type} {front behind : List (String × α)} {key : String}
    {value : α} (h : ((front ++ (key, value) :: behind).map Prod.fst).Nodup) :
    key ∉ (⟨front⟩ : Members α).keys := by
  rw [List.map_append, List.nodup_append] at h
  intro hmem
  exact h.2.2 key hmem key List.mem_cons_self rfl

theorem Members.nodup_snoc {α : Type} {m : Members α} {key : String} (hm : m.keys.Nodup)
    (hnew : key ∉ m.keys) (value : α) :
    (⟨m.entries ++ [(key, value)]⟩ : Members α).keys.Nodup := by
  have hkeys : (⟨m.entries ++ [(key, value)]⟩ : Members α).keys = m.keys ++ [key] :=
    List.map_append
  rw [hkeys, List.nodup_append]
  refine ⟨hm, List.pairwise_singleton _ _, fun a ha b hb heq => hnew ?_⟩
  rwa [← List.mem_singleton.mp hb, ← heq]

def Blanks.none : Blanks := ⟨[], fun _ hc => absurd hc List.not_mem_nil⟩

def Blanks.append (b b' : Blanks) : Blanks :=
  ⟨b.text ++ b'.text, fun c hc => (List.mem_append.mp hc).elim (b.all c) (b'.all c)⟩

/-- A digit in base sixteen. -/
structure HexDigit where
  char : Char
  value : Nat
  spells : Text.hexValue? char = some value

structure Quad where
  first : HexDigit
  second : HexDigit
  third : HexDigit
  fourth : HexDigit

namespace Quad

def text (q : Quad) : List Char := [q.first.char, q.second.char, q.third.char, q.fourth.char]

def code (q : Quad) : Nat :=
  ((q.first.value * 16 + q.second.value) * 16 + q.third.value) * 16 + q.fourth.value

end Quad

/-- A character that stands for itself in a text. -/
def isPlain (c : Char) : Bool :=
  c != '\\' && c != '"' && !Text.Category.control.chars.contains c

/-- The letters behind a backslash, and what they stand for. -/
def shortEscapes : List (Char × Char) :=
  [('"', '"'), ('\\', '\\'), ('/', '/'), ('b', '\x08'), ('f', '\x0c'), ('n', '\n'), ('r', '\r'),
    ('t', '\t')]

/-- What one character of a text is written as. -/
inductive Piece
  | plain (c : Char) (h : isPlain c = true)
  | short (letter c : Char) (h : (letter, c) ∈ shortEscapes)
  | unicode (q : Quad) (hhigh : Escape.isHighSurrogate q.code = false)
      (hlow : Escape.isLowSurrogate q.code = false)
  | pair (high low : Quad) (hhigh : Escape.isHighSurrogate high.code = true)
      (hlow : Escape.isLowSurrogate low.code = true)

namespace Piece

def text : Piece → List Char
  | plain c _ => [c]
  | short letter _ _ => ['\\', letter]
  | unicode q _ _ => '\\' :: 'u' :: q.text
  | pair high low _ _ => '\\' :: 'u' :: (high.text ++ '\\' :: 'u' :: low.text)

def char : Piece → Char
  | plain c _ => c
  | short _ c _ => c
  | unicode q _ _ => Char.ofNat q.code
  | pair high low _ _ => Char.ofNat (Escape.pairCode high.code low.code)

end Piece

structure Quoted where
  pieces : List Piece

namespace Quoted

def body (q : Quoted) : List Char := q.pieces.flatMap Piece.text

def text (q : Quoted) : List Char := '"' :: (q.body ++ ['"'])

def value (q : Quoted) : String := String.ofList (q.pieces.map Piece.char)

end Quoted

structure Power where
  mark : Char
  sign : Option Char
  digits : DigitRun
  mark_mem : mark ∈ ['e', 'E']
  sign_mem : ∀ c ∈ sign, c ∈ ['+', '-']

def Power.text (p : Power) : List Char := p.mark :: (p.sign.toList ++ p.digits.text)

/-- A number: zero or digits without a leading zero, with a sign, a fraction and a power of ten if
they are there. -/
structure Numeral where
  negative : Bool
  whole : DigitRun
  fraction : Option DigitRun
  power : Option Power
  leading : whole.text = ['0'] ∨ whole.text.head? ≠ some '0'

namespace Numeral

def powerText (n : Numeral) : List Char := (n.power.map Power.text).getD []

def text (n : Numeral) : List Char :=
  (if n.negative then ['-'] else []) ++
    (n.whole.text ++ (fractionText n.fraction ++ n.powerText))

theorem powerMark (n : Numeral) : Decimal.PowerMark n.powerText := by
  unfold powerText
  cases n.power with
  | none => exact Or.inl rfl
  | some p =>
    refine Or.inr ⟨p.mark, p.sign.toList ++ p.digits.text, rfl, ?_⟩
    simpa using p.mark_mem

theorem readFloat?_isSome (n : Numeral) : (Decimal.readFloat? n.text).isSome = true :=
  Decimal.readFloat?_isSome n.negative n.whole n.fraction n.powerMark

def value (n : Numeral) : Float := (Decimal.readFloat? n.text).get n.readFloat?_isSome

end Numeral

mutual

/-- Derivations of values, without blanks around them. -/
inductive Tree
  | constant (word : String) (value : Value) (h : (word, value) ∈ constants)
  | number (n : Numeral)
  | text (q : Quoted)
  | emptyArray (inner : Blanks)
  | array (before : Blanks) (items : Items)
  | emptyObject (inner : Blanks)
  | object (before : Blanks) (entries : Entries)

/-- The items of an array, one at least. -/
inductive Items
  | last (item : Tree) (after : Blanks)
  | more (item : Tree) (after before : Blanks) (others : Items)

/-- The entries of an object, one at least. -/
inductive Entries
  | last (key : Quoted) (behindKey beforeItem : Blanks) (item : Tree) (after : Blanks)
  | more (key : Quoted) (behindKey beforeItem : Blanks) (item : Tree) (after before : Blanks)
      (others : Entries)

end

mutual

def Tree.spelling : Tree → List Char
  | .constant word _ _ => word.toList
  | .number n => n.text
  | .text q => q.text
  | .emptyArray inner => '[' :: (inner.text ++ [']'])
  | .array before items => '[' :: (before.text ++ (items.spelling ++ [']']))
  | .emptyObject inner => '\x7b' :: (inner.text ++ ['\x7d'])
  | .object before entries => '\x7b' :: (before.text ++ (entries.spelling ++ ['\x7d']))

def Items.spelling : Items → List Char
  | .last item after => item.spelling ++ after.text
  | .more item after before others =>
    item.spelling ++ (after.text ++ ',' :: (before.text ++ others.spelling))

def Entries.spelling : Entries → List Char
  | .last key behindKey beforeItem item after =>
    key.text ++ (behindKey.text ++ ':' :: (beforeItem.text ++ (item.spelling ++ after.text)))
  | .more key behindKey beforeItem item after before others =>
    key.text ++ (behindKey.text ++ ':' :: (beforeItem.text ++ (item.spelling ++
      (after.text ++ ',' :: (before.text ++ others.spelling)))))

end

mutual

def Tree.value : Tree → Value
  | .constant _ value _ => value
  | .number n => .number n.value
  | .text q => .text q.value
  | .emptyArray _ => .array []
  | .array _ items => .array items.values
  | .emptyObject _ => .object Members.empty
  | .object _ entries => .object ⟨entries.members⟩

def Items.values : Items → List Value
  | .last item _ => [item.value]
  | .more item _ _ others => item.value :: others.values

def Entries.members : Entries → List (String × Value)
  | .last key _ _ item _ => [(key.value, item.value)]
  | .more key _ _ item _ _ others => (key.value, item.value) :: others.members

end

mutual

/-- The decoded keys of every object differ. -/
def Tree.Distinct : Tree → Prop
  | .constant _ _ _ | .number _ | .text _ | .emptyArray _ | .emptyObject _ => True
  | .array _ items => items.Distinct
  | .object _ entries => (entries.members.map Prod.fst).Nodup ∧ entries.Distinct

def Items.Distinct : Items → Prop
  | .last item _ => item.Distinct
  | .more item _ _ others => item.Distinct ∧ others.Distinct

def Entries.Distinct : Entries → Prop
  | .last _ _ _ item _ => item.Distinct
  | .more _ _ _ item _ _ others => item.Distinct ∧ others.Distinct

end

mutual

/-- The deepest level that the value needs, if its rule runs at the given depth. -/
def Tree.need (depth : Nat) : Tree → Nat
  | .constant _ _ _ => depth + 1
  | .number _ | .text _ | .emptyArray _ | .emptyObject _ => depth + 2
  | .array _ items => items.need (depth + 2)
  | .object _ entries => max (depth + 3) (entries.need (depth + 2))

def Items.need (depth : Nat) : Items → Nat
  | .last item _ => item.need depth
  | .more item _ _ others => max (item.need depth) (others.need depth)

def Entries.need (depth : Nat) : Entries → Nat
  | .last _ _ _ item _ => item.need depth
  | .more _ _ _ item _ _ others => max (item.need depth) (others.need depth)

end

mutual

/-- How many levels a value needs does not depend on where it stands. -/
theorem Tree.need_add (depth more : Nat) (t : Tree) :
    t.need (depth + more) = depth + t.need more := by
  cases t with
  | constant | number | text | emptyArray | emptyObject =>
    simp only [Tree.need]
    omega
  | array before items =>
    have h := items.need_add depth (more + 2)
    simp only [Tree.need]
    rw [Nat.add_assoc, h]
  | object before entries =>
    have h := entries.need_add depth (more + 2)
    simp only [Tree.need]
    rw [Nat.add_assoc depth more 2, h]
    omega

theorem Items.need_add (depth more : Nat) (items : Items) :
    items.need (depth + more) = depth + items.need more := by
  cases items with
  | last item after => exact item.need_add depth more
  | more item after before others =>
    have h := item.need_add depth more
    have h' := others.need_add depth more
    simp only [Items.need]
    omega

theorem Entries.need_add (depth more : Nat) (entries : Entries) :
    entries.need (depth + more) = depth + entries.need more := by
  cases entries with
  | last key behindKey beforeItem item after => exact item.need_add depth more
  | more key behindKey beforeItem item after before others =>
    have h := item.need_add depth more
    have h' := others.need_add depth more
    simp only [Entries.need]
    omega

end

structure Document where
  before : Blanks
  root : Tree
  after : Blanks

def Document.spelling (d : Document) : List Char :=
  d.before.text ++ (d.root.spelling ++ d.after.text)

end Descent.Json
