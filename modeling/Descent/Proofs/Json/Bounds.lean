import Descent.Proofs.Json.Language
import Descent.Proofs.Room

/-!
The data format under bounds on nesting. An array or an object costs two levels and a mark, so
that the levels a rule needs are bounded by the characters left. A value that is found under a
bound is found under every higher one, since its derivation fits there too. The grammar moves by
its tokens alone, and breaks no contract of moving forward.
-/
namespace Descent.Json

open Script

/-- The levels that a rule needs beside those of the arrays and objects in it, its own among them.
-/
def Rule.levels : Rule → Nat → Nat
  | document, n => 2 * n + 4
  | value, n => 2 * n + 3
  | object, n => 2 * n + 2
  | array, n => 2 * n + 2
  | string, _ => 2
  | number, _ => 2

/-- The levels that a callee needs for so many characters, its own among them. -/
def need : Callee Rule → Nat → Nat
  | .token _, _ => 1
  | .rule r, n => r.levels n

section Within

variable {room n : Nat}

theorem blanks_within {α : Type} {next : Unit → Script Yield α} (h : 1 ≤ room)
    (hnext : ∀ m, m ≤ n → (next ()).Within need room m) :
    (blanks >>= next).Within need room n :=
  within_skip h hnext

theorem constantFrom_within (words : List (String × Value)) (h : 1 ≤ room) :
    (constantFrom words).Within need room n := by
  induction words generalizing n with
  | nil => exact within_fail _ _
  | cons entry others ih => exact within_succeeds h (fun _ _ => trivial) fun _ _ => ih

theorem valueBody_within : valueBody.Within need (2 * n + 2) n := by
  have htoken : ∀ t m, need (.token t) m ≤ 2 * n + 2 := fun _ _ => Nat.le_add_left 1 _
  have hrule : ∀ r m, m ≤ n → r.levels m ≤ 2 * m + 2 → need (.rule r) m ≤ 2 * n + 2 := by
    intro r m hm hlevels
    change r.levels m ≤ 2 * n + 2
    omega
  refine blanks_within (htoken (.literal "") n) fun m hm => ?_
  refine within_sees (htoken _ _) fun quote k hk => ?_
  cases quote with
  | true =>
    exact within_parse (hrule .string k (by omega) (Nat.le_add_left 2 _)) fun _ _ _ => trivial
  | false =>
    refine within_sees (htoken _ _) fun brace j hj => ?_
    cases brace with
    | true =>
      exact within_parse (hrule .object j (by omega) (Nat.le_refl _)) fun _ _ _ => trivial
    | false =>
      refine within_sees (htoken _ _) fun bracket i hi => ?_
      cases bracket with
      | true =>
        exact within_parse (hrule .array i (by omega) (Nat.le_refl _)) fun _ _ _ => trivial
      | false =>
        refine within_attempt (hrule .number i (by omega) (Nat.le_add_left 2 _))
          fun result l hl => ?_
        cases result with
        | ok x => trivial
        | error => exact constantFrom_within _ (htoken (.literal "") n)

theorem need_inner {r : Rule} {m : Nat} (hm : m < n) (hr : r.levels m ≤ 2 * m + 3) :
    need (.rule r) m ≤ 2 * n + 1 := by
  change r.levels m ≤ 2 * n + 1
  omega

theorem membersFrom_within (rounds : Nat) (members : Object) {m : Nat} (hm : m < n) :
    (membersFrom rounds members).Within need (2 * n + 1) m := by
  induction rounds generalizing m members with
  | zero => trivial
  | succ rounds ih =>
    have htoken : ∀ t m, need (.token t) m ≤ 2 * n + 1 := fun _ _ => Nat.le_add_left 1 _
    refine blanks_within (htoken (.literal "") n) fun k hk => within_get fun start => ?_
    refine within_parse (need_inner (r := .string) (by omega) ?_) fun key j hj => ?_
    · change 2 ≤ 2 * k + 3
      omega
    split
    · exact fun _ => trivial
    · refine blanks_within (htoken (.literal "") n) fun i hi => ?_
      refine within_parse (htoken _ _) fun _ l hl => ?_
      have hbelow : l ≤ i := Nat.le_of_add_right_le hl
      have hkey : j ≤ k := Nat.le_of_add_right_le hj
      refine within_parse (need_inner (r := .value) (by omega) (Nat.le_refl _)) ?_
      intro item o ho
      have hitem : o ≤ l := Nat.le_of_add_right_le ho
      split
      · exact fun _ => trivial
      · refine blanks_within (htoken (.literal "") n) fun p hp => ?_
        refine within_succeeds (htoken _ _) (fun q hq => ih _ ?_) fun _ _ => trivial
        have hcomma : q ≤ p := Nat.le_of_add_right_le hq
        omega

theorem objectBody_within : objectBody.Within need (2 * n + 1) n := by
  have htoken : ∀ t m, need (.token t) m ≤ 2 * n + 1 := fun _ _ => Nat.le_add_left 1 _
  refine blanks_within (htoken (.literal "") n) fun m hm => ?_
  refine within_parse (htoken _ _) fun _ k hk => ?_
  have hbrace : k + 1 ≤ m := hk
  refine blanks_within (htoken (.literal "") n) fun j hj => ?_
  refine within_succeeds (htoken _ _) (fun _ _ => trivial) fun i hi => within_get fun rest => ?_
  have hshort : i < n := by omega
  refine within_bind (membersFrom_within _ _ hshort) fun members l _ => ?_
  exact within_parse (htoken _ _) fun _ _ _ => trivial

theorem itemsFrom_within (rounds : Nat) (items : List Value) {m : Nat} (hm : m < n) :
    (itemsFrom rounds items).Within need (2 * n + 1) m := by
  induction rounds generalizing m items with
  | zero => trivial
  | succ rounds ih =>
    have htoken : ∀ t m, need (.token t) m ≤ 2 * n + 1 := fun _ _ => Nat.le_add_left 1 _
    refine within_parse (need_inner (r := .value) hm (Nat.le_refl _)) fun item k hk => ?_
    have hitem : k ≤ m := Nat.le_of_add_right_le hk
    refine blanks_within (htoken (.literal "") n) fun j hj => ?_
    refine within_succeeds (htoken _ _) (fun i hi => ih _ ?_) fun _ _ => trivial
    have hcomma : i ≤ j := Nat.le_of_add_right_le hi
    omega

theorem arrayBody_within : arrayBody.Within need (2 * n + 1) n := by
  have htoken : ∀ t m, need (.token t) m ≤ 2 * n + 1 := fun _ _ => Nat.le_add_left 1 _
  refine blanks_within (htoken (.literal "") n) fun m hm => ?_
  refine within_parse (htoken _ _) fun _ k hk => ?_
  have hbracket : k + 1 ≤ m := hk
  refine blanks_within (htoken (.literal "") n) fun j hj => ?_
  refine within_succeeds (htoken _ _) (fun _ _ => trivial) fun i hi => within_get fun rest => ?_
  have hshort : i < n := by omega
  refine within_bind (itemsFrom_within _ _ hshort) fun items l _ => ?_
  exact within_parse (htoken _ _) fun _ _ _ => trivial

theorem stringBody_within : stringBody.Within need 1 n := by
  refine within_parse (Nat.le_refl _) fun _ m _ => ?_
  refine within_parse (Nat.le_refl _) fun raw k _ => ?_
  cases Escape.decode raw.toList with
  | error => exact within_fail _ _
  | ok text =>
    exact within_succeeds (Nat.le_refl _) (fun _ _ => trivial) fun _ _ => within_fail _ _

theorem numberBody_within : numberBody.Within need 1 n := by
  refine within_attempt (Nat.le_refl _) fun digits m _ => ?_
  cases digits with
  | error => exact within_fail _ _
  | ok digits =>
    simp only
    cases Decimal.readFloat? digits.toList with
    | none => exact within_fail _ _
    | some => trivial

theorem documentBody_within : documentBody.Within need (2 * n + 3) n :=
  within_parse (Nat.le_refl _) fun _ _ _ =>
    blanks_within (Nat.le_add_left 1 _) fun _ _ => trivial

end Within

theorem grammar_within : grammar.Within need := by
  intro c n
  cases c with
  | token t => exact ⟨0, rfl, t.script_within need 0 n⟩
  | rule r =>
    cases r with
    | document => exact ⟨2 * n + 3, rfl, documentBody_within⟩
    | value => exact ⟨2 * n + 2, rfl, valueBody_within⟩
    | object => exact ⟨2 * n + 1, rfl, objectBody_within⟩
    | array => exact ⟨2 * n + 1, rfl, arrayBody_within⟩
    | string => exact ⟨1, rfl, stringBody_within⟩
    | number => exact ⟨1, rfl, numberBody_within⟩

theorem parseWithin_mono {input : String} {limits : Limits} {limit : Nat} {value : Value}
    (hle : limits.maxDepth ≤ limit)
    (h : grammar.parseWithin (.rule .document) input limits = .ok value) :
    grammar.parseWithin (.rule .document) input (limits.withMaxDepth limit) = .ok value := by
  by_cases hlimit : limits.maxDepth < unlimited
  · obtain ⟨d, hspelling, hdistinct, hdepth, rfl⟩ :=
      (parseWithin_eq_ok_iff input hlimit value).mp h
    exact d.parseWithin_eq hdistinct hspelling (Nat.le_trans hdepth hle)
      (Nat.lt_of_le_of_lt hdepth hlimit)
  · have hfree : unlimited ≤ limits.maxDepth := Nat.le_of_not_lt hlimit
    rw [Grammar.parseWithin_of_unlimited _ _ hfree (Nat.le_trans hfree hle)]
    exact h

section Steady

theorem blanks_steady : blanks.Steady := uses_skip trivial

theorem constantFrom_steady (words : List (String × Value)) : (constantFrom words).Steady := by
  induction words with
  | nil => exact uses_fail _ trivial trivial
  | cons entry others ih =>
    refine uses_bind (uses_succeeds trivial) fun found => ?_
    cases found with
    | true => trivial
    | false => exact ih

theorem valueBody_steady : valueBody.Steady := by
  refine uses_bind blanks_steady fun _ => uses_bind (uses_sees trivial) fun quote => ?_
  split
  · exact uses_bind (uses_parse trivial) fun _ => trivial
  · refine uses_bind (uses_sees trivial) fun brace => ?_
    split
    · exact uses_bind (uses_parse trivial) fun _ => trivial
    · refine uses_bind (uses_sees trivial) fun bracket => ?_
      split
      · exact uses_bind (uses_parse trivial) fun _ => trivial
      · refine uses_bind (uses_attempt trivial) fun result => ?_
        cases result with
        | ok x => trivial
        | error => exact constantFrom_steady constants

theorem duplicateKey_steady {α : Type} (start : Position) (key : String) :
    (duplicateKey start key : Script Yield α).Steady := ⟨trivial, fun _ => trivial⟩

theorem membersFrom_steady (rounds : Nat) (members : Object) :
    (membersFrom rounds members).Steady := by
  induction rounds generalizing members with
  | zero => trivial
  | succ rounds ih =>
    refine uses_bind blanks_steady fun _ => uses_bind (uses_get trivial) fun start =>
      uses_bind (uses_parse trivial) fun key => ?_
    split
    · exact duplicateKey_steady start key
    · refine uses_bind blanks_steady fun _ => uses_bind (uses_parse trivial) fun _ =>
        uses_bind (uses_parse trivial) fun item => ?_
      split
      · exact duplicateKey_steady _ _
      · refine uses_bind blanks_steady fun _ => uses_bind (uses_succeeds trivial) fun found => ?_
        cases found with
        | true => exact ih _
        | false => trivial

theorem objectBody_steady : objectBody.Steady := by
  refine uses_bind blanks_steady fun _ => uses_bind (uses_parse trivial) fun _ =>
    uses_bind blanks_steady fun _ => uses_bind (uses_succeeds trivial) fun found => ?_
  cases found with
  | true => trivial
  | false =>
    exact uses_bind (uses_get trivial) fun rest => uses_bind (membersFrom_steady _ _) fun _ =>
      uses_bind (uses_parse trivial) fun _ => trivial

theorem itemsFrom_steady (rounds : Nat) (items : List Value) :
    (itemsFrom rounds items).Steady := by
  induction rounds generalizing items with
  | zero => trivial
  | succ rounds ih =>
    refine uses_bind (uses_parse trivial) fun item => uses_bind blanks_steady fun _ =>
      uses_bind (uses_succeeds trivial) fun found => ?_
    cases found with
    | true => exact ih _
    | false => trivial

theorem arrayBody_steady : arrayBody.Steady := by
  refine uses_bind blanks_steady fun _ => uses_bind (uses_parse trivial) fun _ =>
    uses_bind blanks_steady fun _ => uses_bind (uses_succeeds trivial) fun found => ?_
  cases found with
  | true => trivial
  | false =>
    exact uses_bind (uses_get trivial) fun rest => uses_bind (itemsFrom_steady _ _) fun _ =>
      uses_bind (uses_parse trivial) fun _ => trivial

theorem stringBody_steady : stringBody.Steady := by
  refine uses_bind (uses_parse trivial) fun _ => uses_bind (uses_parse trivial) fun raw => ?_
  cases Escape.decode raw.toList with
  | error => exact uses_fail _ trivial trivial
  | ok text =>
    refine uses_bind (uses_succeeds trivial) fun found => ?_
    cases found with
    | true => trivial
    | false => exact uses_fail _ trivial trivial

theorem numberBody_steady : numberBody.Steady := by
  refine uses_bind (uses_attempt trivial) fun digits => ?_
  cases digits with
  | error => exact uses_fail _ trivial trivial
  | ok digits =>
    simp only
    cases Decimal.readFloat? digits.toList with
    | none => exact uses_fail _ trivial trivial
    | some => trivial

theorem grammar_steady : grammar.Steady := by
  intro r
  cases r with
  | document =>
    exact uses_bind (uses_parse trivial) fun _ => uses_bind blanks_steady fun _ => trivial
  | value => exact valueBody_steady
  | object => exact objectBody_steady
  | array => exact arrayBody_steady
  | string => exact stringBody_steady
  | number => exact numberBody_steady

end Steady

end Descent.Json
