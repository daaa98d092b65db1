import Descent.Text.Hex

/-!
Sets of characters as intervals of code points. The intervals of a set stand in order and
apart, so that equal sets have equal intervals, and a look-up may stop at the first interval
that begins too late. `contains_union`, `contains_inter` and `contains_compl` say what the
operations do to membership.
-/
namespace Descent.Text

/-- Closed intervals of code points. -/
abbrev Intervals := List (Nat × Nat)

namespace Intervals

def lastCode : Nat := 0x10ffff

/-- The intervals begin at `low` or later, and there is a gap behind each. -/
def Apart : Nat → Intervals → Prop
  | _, [] => True
  | low, (a, b) :: rest => low ≤ a ∧ a ≤ b ∧ Apart (b + 2) rest

theorem Apart.weaken {low m : Nat} {rs : Intervals} (h : Apart m rs) (hle : low ≤ m) :
    Apart low rs := by
  cases rs with
  | nil => trivial
  | cons r rest => exact ⟨Nat.le_trans hle h.1, h.2⟩

def within (n : Nat) : Intervals → Bool
  | [] => false
  | (a, b) :: rest => a ≤ n && (n ≤ b || within n rest)

theorem within_eq_false {low n : Nat} {rs : Intervals} (h : Apart low rs) (hn : n < low) :
    within n rs = false := by
  cases rs with
  | nil => rfl
  | cons r rest =>
    have := h.1
    simp only [within, Bool.and_eq_false_iff, decide_eq_false_iff_not]
    omega

/-- Adds an interval and joins it with those that it meets or touches. -/
def add (low high : Nat) : Intervals → Intervals
  | [] => [(low, high)]
  | (a, b) :: rest =>
    if high + 1 < a then (low, high) :: (a, b) :: rest
    else if b + 1 < low then (a, b) :: add low high rest
    else add (min low a) (max high b) rest

theorem apart_add {m low high : Nat} {rs : Intervals} (h : Apart m rs) (hm : m ≤ low)
    (hle : low ≤ high) : Apart m (add low high rs) := by
  induction rs generalizing m low high with
  | nil => exact ⟨hm, hle, trivial⟩
  | cons r rest ih =>
    obtain ⟨ha, hab, hrest⟩ := h
    simp only [add]
    split
    · exact ⟨hm, hle, by omega, hab, hrest⟩
    · split
      · exact ⟨ha, hab, ih hrest (by omega) hle⟩
      · exact ih (hrest.weaken (by omega)) (by omega) (by omega)

theorem within_add {m low high n : Nat} {rs : Intervals} (h : Apart m rs) (hle : low ≤ high) :
    within n (add low high rs) = (decide (low ≤ n ∧ n ≤ high) || within n rs) := by
  induction rs generalizing m low high with
  | nil => simp [add, within]
  | cons r rest ih =>
    obtain ⟨a, b⟩ := r
    obtain ⟨ha, hab, hrest⟩ := h
    have hlate : n < b + 2 → within n rest = false := within_eq_false hrest
    simp only [add]
    split
    · cases hw : within n rest <;> rw [Bool.eq_iff_iff] <;> simp [within, hw] <;> omega
    · split
      · simp only [within, ih hrest hle]
        cases hw : within n rest <;> rw [Bool.eq_iff_iff] <;> simp [hw] at hlate ⊢ <;> omega
      · rw [ih hrest (by omega)]
        cases hw : within n rest <;> rw [Bool.eq_iff_iff] <;>
          simp [within, hw] at hlate ⊢ <;> omega

/-- The intervals between those of a list, from `low` on. -/
def gaps (low : Nat) : Intervals → Intervals
  | [] => if low ≤ lastCode then [(low, lastCode)] else []
  | (a, b) :: rest => if low < a then (low, a - 1) :: gaps (b + 1) rest else gaps (b + 1) rest

theorem apart_gaps {m low : Nat} {rs : Intervals} (h : Apart m rs) (hm : low ≤ m) :
    Apart low (gaps low rs) := by
  induction rs generalizing m low with
  | nil =>
    simp only [gaps]
    split
    · exact ⟨Nat.le_refl _, by assumption, trivial⟩
    · trivial
  | cons r rest ih =>
    obtain ⟨ha, hab, hrest⟩ := h
    have hnext := ih hrest (Nat.le_succ (r.2 + 1))
    simp only [gaps]
    split
    · exact ⟨Nat.le_refl _, by omega, hnext.weaken (by omega)⟩
    · exact hnext.weaken (by omega)

theorem within_gaps {m low n : Nat} {rs : Intervals} (h : Apart m rs) (hm : low ≤ m)
    (hn : low ≤ n) (hlast : n ≤ lastCode) : within n (gaps low rs) = !within n rs := by
  induction rs generalizing m low with
  | nil =>
    have : low ≤ lastCode := Nat.le_trans hn hlast
    simp [gaps, within, this, hn, hlast]
  | cons r rest ih =>
    obtain ⟨a, b⟩ := r
    obtain ⟨ha, hab, hrest⟩ := h
    have hbehind : b + 1 ≤ n → within n (gaps (b + 1) rest) = !within n rest :=
      ih hrest (Nat.le_succ (b + 1))
    have hbefore : n < b + 1 → within n (gaps (b + 1) rest) = false :=
      within_eq_false (apart_gaps hrest (Nat.le_succ (b + 1)))
    simp only [gaps]
    by_cases hb : b + 1 ≤ n
    · have : ¬ n ≤ a - 1 := by omega
      have : ¬ n ≤ b := by omega
      have : a ≤ n := by omega
      split <;> simp [within, hbehind hb, *]
    · have hnb : n ≤ b := by omega
      split
      · rw [Bool.eq_iff_iff]
        simp [within, hbefore (by omega), hnb, hn]
        omega
      · have : a ≤ n := by omega
        simp [within, hbefore (by omega), hnb, this]

theorem within_eq_any {m n : Nat} {rs : Intervals} (h : Apart m rs) :
    within n rs = rs.any fun r => r.1 ≤ n && n ≤ r.2 := by
  induction rs generalizing m with
  | nil => rfl
  | cons r rest ih =>
    obtain ⟨ha, hab, hrest⟩ := h
    have hlate : n < r.2 + 2 → within n rest = false := within_eq_false hrest
    rw [List.any_cons, ← ih hrest]
    cases hw : within n rest <;> simp [within, hw] at hlate ⊢
    omega

end Intervals

open Intervals

structure CharSet where
  ranges : Intervals
  apart : Apart 0 ranges
deriving DecidableEq

namespace CharSet

def contains (s : CharSet) (c : Char) : Bool := within c.toNat s.ranges

def empty : CharSet := ⟨[], trivial⟩

/-- The set with an interval of code points, which is empty if it ends before it begins. -/
def addInterval (s : CharSet) (low high : Nat) : CharSet :=
  if h : low ≤ high then ⟨add low high s.ranges, apart_add s.apart (Nat.zero_le low) h⟩ else s

def addIntervals (s : CharSet) (rs : Intervals) : CharSet :=
  rs.foldr (fun r s => s.addInterval r.1 r.2) s

def ofIntervals (rs : Intervals) : CharSet := empty.addIntervals rs

def interval (low high : Char) : CharSet := empty.addInterval low.toNat high.toNat

def single (c : Char) : CharSet := interval c c

def union (a b : CharSet) : CharSet := b.addIntervals a.ranges

def unionAll (sets : List CharSet) : CharSet := sets.foldr union empty

def compl (s : CharSet) : CharSet := ⟨gaps 0 s.ranges, apart_gaps s.apart (Nat.le_refl 0)⟩

def inter (a b : CharSet) : CharSet := compl (union (compl a) (compl b))

def diff (a b : CharSet) : CharSet := inter a (compl b)

def symmDiff (a b : CharSet) : CharSet := union (diff a b) (diff b a)

def full : CharSet := compl empty

theorem contains_addInterval (s : CharSet) (low high : Nat) (c : Char) :
    (s.addInterval low high).contains c =
      ((low ≤ c.toNat && c.toNat ≤ high) || s.contains c) := by
  unfold addInterval
  split
  · simp [contains, within_add s.apart (by assumption)]
  · rw [Bool.eq_iff_iff]
    simp
    omega

theorem contains_addIntervals (s : CharSet) (rs : Intervals) (c : Char) :
    (s.addIntervals rs).contains c =
      ((rs.any fun r => r.1 ≤ c.toNat && c.toNat ≤ r.2) || s.contains c) := by
  unfold addIntervals
  induction rs with
  | nil => rfl
  | cons r rest ih =>
    simp only [List.foldr_cons, contains_addInterval, ih, List.any_cons, Bool.or_assoc]

@[simp] theorem contains_empty (c : Char) : empty.contains c = false := rfl

@[simp] theorem contains_union (a b : CharSet) (c : Char) :
    (union a b).contains c = (a.contains c || b.contains c) := by
  rw [union, contains_addIntervals, ← within_eq_any a.apart]
  rfl

@[simp] theorem contains_compl (s : CharSet) (c : Char) :
    (compl s).contains c = !s.contains c := by
  have hlast : c.toNat ≤ lastCode := by
    have h := c.valid
    simp only [UInt32.isValidChar, Nat.isValidChar] at h
    change c.val.toNat ≤ 0x10ffff
    omega
  exact within_gaps s.apart (Nat.le_refl 0) (Nat.zero_le _) hlast

@[simp] theorem contains_inter (a b : CharSet) (c : Char) :
    (inter a b).contains c = (a.contains c && b.contains c) := by
  simp [inter]

@[simp] theorem contains_diff (a b : CharSet) (c : Char) :
    (diff a b).contains c = (a.contains c && !b.contains c) := by
  simp [diff]

@[simp] theorem contains_interval (low high c : Char) :
    (interval low high).contains c = (low.toNat ≤ c.toNat && c.toNat ≤ high.toNat) := by
  simp [interval, contains_addInterval]

/-- The intervals that an entry of a table writes: a code point, two code points with all that
lies between them, or two code points and the distance from one member to the next. -/
def intervalsOfEntry (entry : List Char) : Intervals :=
  let bounds := entry.takeWhile (· ≠ '/')
  let low := (hexNumber? (bounds.takeWhile (· ≠ '-'))).getD 0
  let high := (hexNumber? ((bounds.dropWhile (· ≠ '-')).drop 1)).getD low
  match hexNumber? ((entry.dropWhile (· ≠ '/')).drop 1) with
  | none => [(low, high)]
  | some step =>
    (List.range ((high - low) / step + 1)).map fun i => (low + step * i, low + step * i)

/-- The entries of a line of a table, which blanks separate. -/
def entriesOfLine (line : String) : List (List Char) :=
  line.toList.foldr
    (fun c words =>
      if c = ' ' then [] :: words
      else
        match words with
        | word :: words => (c :: word) :: words
        | [] => [[c]])
    [[]]

/-- The set that a table of code points in base sixteen writes. -/
def ofTable (lines : List String) : CharSet :=
  ofIntervals ((lines.flatMap entriesOfLine).flatMap intervalsOfEntry)

end CharSet

end Descent.Text
