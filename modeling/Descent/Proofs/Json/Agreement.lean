import Descent.Proofs.Agreement
import Descent.Json.Grammar

/-!
The data format, side by side with itself. A key that is repeated is reported at a place that was
asked for before the key was read; places are used for nothing else but failures, so that the
scripts agree with themselves under every correspondence of places.
-/
namespace Descent.Json

open Script

variable {k : Correspondence}

theorem constantFrom_agrees (words : List (String × Value)) :
    (constantFrom words).Agrees k (constantFrom words) := by
  induction words with
  | nil => exact agrees_fail _
  | cons entry others ih =>
    refine (agrees_succeeds _).bind fun found => ?_
    cases found with
    | true => exact .done entry.2
    | false => exact ih

theorem valueBody_agrees : valueBody.Agrees k valueBody := by
  refine (agrees_skip _).bind fun _ => (agrees_sees _).bind fun quote => ?_
  cases quote with
  | true => exact (agrees_parse _).bind fun text => .done _
  | false =>
    refine (agrees_sees _).bind fun brace => ?_
    cases brace with
    | true => exact (agrees_parse _).bind fun members => .done _
    | false =>
      refine (agrees_sees _).bind fun bracket => ?_
      cases bracket with
      | true => exact (agrees_parse _).bind fun items => .done _
      | false =>
        refine agrees_attempt fun a b hab => ?_
        cases hab with
        | ok x => exact .done _
        | error => exact constantFrom_agrees constants

theorem membersFrom_agrees (rounds : Nat) (members : Object) :
    (membersFrom rounds members).Agrees k (membersFrom rounds members) := by
  induction rounds generalizing members with
  | zero => exact .done members
  | succ rounds ih =>
    refine (agrees_skip _).bind fun _ => agrees_get fun start start' hstart => ?_
    refine (agrees_parse _).bind fun key => ?_
    split
    · exact agrees_failAt hstart _
    · refine (agrees_skip _).bind fun _ => (agrees_parse _).bind fun _ =>
        (agrees_parse _).bind fun item => ?_
      split
      · exact agrees_failAt hstart _
      · refine (agrees_skip _).bind fun _ => (agrees_succeeds _).bind fun found => ?_
        cases found with
        | true => exact ih _
        | false => exact .done _

theorem objectBody_agrees : objectBody.Agrees k objectBody := by
  refine (agrees_skip _).bind fun _ => (agrees_parse _).bind fun _ =>
    (agrees_skip _).bind fun _ => (agrees_succeeds _).bind fun found => ?_
  cases found with
  | true => exact .done _
  | false =>
    refine agrees_get fun a b hab => ?_
    obtain rfl : a = b := hab
    exact (membersFrom_agrees _ _).bind fun members => (agrees_parse _).bind fun _ => .done _

theorem itemsFrom_agrees (rounds : Nat) (items : List Value) :
    (itemsFrom rounds items).Agrees k (itemsFrom rounds items) := by
  induction rounds generalizing items with
  | zero => exact .done _
  | succ rounds ih =>
    refine (agrees_parse _).bind fun item => (agrees_skip _).bind fun _ =>
      (agrees_succeeds _).bind fun found => ?_
    cases found with
    | true => exact ih _
    | false => exact .done _

theorem arrayBody_agrees : arrayBody.Agrees k arrayBody := by
  refine (agrees_skip _).bind fun _ => (agrees_parse _).bind fun _ =>
    (agrees_skip _).bind fun _ => (agrees_succeeds _).bind fun found => ?_
  cases found with
  | true => exact .done _
  | false =>
    refine agrees_get fun a b hab => ?_
    obtain rfl : a = b := hab
    exact (itemsFrom_agrees _ _).bind fun items => (agrees_parse _).bind fun _ => .done _

theorem stringBody_agrees : stringBody.Agrees k stringBody := by
  refine (agrees_parse _).bind fun _ => (agrees_parse _).bind fun raw => ?_
  cases Escape.decode (String.toList raw) with
  | error e => exact agrees_fail _
  | ok text =>
    refine (agrees_succeeds _).bind fun found => ?_
    cases found with
    | true => exact .done _
    | false => exact agrees_fail _

theorem numberBody_agrees : numberBody.Agrees k numberBody := by
  refine agrees_attempt fun a b hab => ?_
  cases hab with
  | error => exact agrees_fail _
  | ok digits =>
    dsimp only
    cases Decimal.readFloat? (String.toList digits) with
    | none => exact agrees_fail _
    | some x => exact .done x

/-- The data format uses a place for nothing but a failure. -/
theorem body_agrees (r : Rule) : (body r).Agrees k (body r) := by
  cases r with
  | document => exact (agrees_parse _).bind fun value => (agrees_skip _).bind fun _ => .done value
  | value => exact valueBody_agrees
  | object => exact objectBody_agrees
  | array => exact arrayBody_agrees
  | string => exact stringBody_agrees
  | number => exact numberBody_agrees

end Descent.Json
