/-!
The size of a text in bytes. Offsets count the bytes of the UTF-8 form, while texts are
lists of characters, so a cut at a byte count may fail: past the end of the text, or inside
a character. `split_eq_some_iff` says that a cut succeeds exactly at the bytes where a
character ends.
-/
namespace Descent.Text

/-- The number of bytes of a text in UTF-8. -/
def width : List Char → Nat
  | [] => 0
  | c :: cs => c.utf8Size + width cs

def atLeast : Nat → List Char → Bool
  | 0, _ => true
  | _ + 1, [] => false
  | n + 1, c :: cs => atLeast (n + 1 - c.utf8Size) cs

/-- The text cut in two after its first `n` bytes, if a character ends there. -/
def split : Nat → List Char → Option (List Char × List Char)
  | 0, cs => some ([], cs)
  | _ + 1, [] => none
  | n + 1, c :: cs =>
    if c.utf8Size ≤ n + 1 then
      (split (n + 1 - c.utf8Size) cs).map fun (front, back) => (c :: front, back)
    else none

/-- The text as far as it fits into `n` bytes. Of a character that fits only in part, there is
the replacement character. -/
def firstBytes : Nat → List Char → List Char
  | 0, _ => []
  | _ + 1, [] => []
  | n + 1, c :: cs =>
    if c.utf8Size ≤ n + 1 then c :: firstBytes (n + 1 - c.utf8Size) cs else ['\ufffd']

@[simp] theorem width_nil : width [] = 0 := rfl

@[simp] theorem width_cons (c : Char) (cs : List Char) :
    width (c :: cs) = c.utf8Size + width cs := rfl

@[simp] theorem width_append (xs ys : List Char) : width (xs ++ ys) = width xs + width ys := by
  induction xs with
  | nil => simp
  | cons c xs ih => simp [ih, Nat.add_assoc]

theorem length_le_width (cs : List Char) : cs.length ≤ width cs := by
  induction cs with
  | nil => simp
  | cons c cs ih =>
    have := c.utf8Size_pos
    simp only [List.length_cons, width_cons]
    omega

theorem atLeast_eq_true_iff (n : Nat) (cs : List Char) : atLeast n cs = true ↔ n ≤ width cs := by
  induction cs generalizing n with
  | nil => cases n <;> simp [atLeast]
  | cons c cs ih =>
    cases n with
    | zero => simp [atLeast]
    | succ n =>
      rw [atLeast, ih, width_cons]
      omega

/-- A cut succeeds exactly where a character ends. -/
theorem split_eq_some_iff (n : Nat) (cs front back : List Char) :
    split n cs = some (front, back) ↔ cs = front ++ back ∧ width front = n := by
  induction cs generalizing n front with
  | nil =>
    cases n with
    | zero =>
      simp only [split, Option.some.injEq, Prod.mk.injEq]
      constructor
      · rintro ⟨rfl, rfl⟩
        simp
      · rintro ⟨happ, _⟩
        have := List.append_eq_nil_iff.mp happ.symm
        simp [this]
    | succ n =>
      simp only [split, reduceCtorEq, false_iff, not_and]
      intro happ
      have := List.append_eq_nil_iff.mp happ.symm
      simp [this]
  | cons c cs ih =>
    have hpos := c.utf8Size_pos
    cases n with
    | zero =>
      simp only [split, Option.some.injEq, Prod.mk.injEq]
      constructor
      · rintro ⟨rfl, rfl⟩
        simp
      · rintro ⟨happ, hwidth⟩
        cases front with
        | nil => simpa using happ
        | cons d front =>
          have := d.utf8Size_pos
          simp only [width_cons] at hwidth
          omega
    | succ n =>
      simp only [split]
      split
      · rename_i hfit
        simp only [Option.map_eq_some_iff, Prod.mk.injEq]
        constructor
        · rintro ⟨⟨mid, tail⟩, hsplit, rfl, rfl⟩
          obtain ⟨rfl, hwidth⟩ := (ih _ _).mp hsplit
          simp only [List.cons_append, width_cons, true_and]
          omega
        · rintro ⟨happ, hwidth⟩
          cases front with
          | nil => simp at hwidth
          | cons d mid =>
            simp only [List.cons_append, List.cons.injEq] at happ
            obtain ⟨rfl, rfl⟩ := happ
            simp only [width_cons] at hwidth
            exact ⟨(mid, back), (ih _ _).mpr ⟨rfl, by omega⟩, rfl, rfl⟩
      · rename_i hwide
        simp only [reduceCtorEq, false_iff, not_and]
        rintro happ hwidth
        cases front with
        | nil => simp at hwidth
        | cons d mid =>
          simp only [List.cons_append, List.cons.injEq] at happ
          obtain ⟨rfl, rfl⟩ := happ
          simp only [width_cons] at hwidth
          omega

end Descent.Text
