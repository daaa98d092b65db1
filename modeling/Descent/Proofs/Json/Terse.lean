import Descent.Proofs.Terse
import Descent.Proofs.Json.Lexemes

/-!
The data format is terse. Its messages are fixed, but for two. A key that is repeated is quoted.
And the decoder shows what it trips over as it stands, which could be a line break; but in a body
that the pattern has read it trips over nothing but surrogates, and shows the digits of their
codes.
-/
namespace Descent.Json

open Script

open Text (OneLine)

theorem oneLine_invalidCodepoint (code : Nat) :
    OneLine (Escape.Error.invalidCodepoint code).message := by
  refine .append (by decide) (Text.oneLine_ofList ?_)
  have hupper : '\n' ∉ (Text.hexDigits code).map Char.toUpper := by
    rw [List.mem_map]
    rintro ⟨c, hc, hbreak⟩
    obtain ⟨d, hd, rfl⟩ := Text.exists_digit (by decide) hc
    exact (by decide : ∀ d < 16, d.digitChar.toUpper ≠ '\n') d hd hbreak
  unfold Escape.paddedHex
  rw [List.mem_append, not_or]
  refine ⟨fun h => ?_, hupper⟩
  exact absurd (List.eq_of_mem_replicate h) (by decide)

theorem constantFrom_terse (words : List (String × Value)) :
    (constantFrom words).Terse fun _ => True := by
  induction words with
  | nil => exact terse_fail (by decide)
  | cons entry others ih =>
    refine (terse_succeeds _).bind fun found _ => ?_
    cases found with
    | true => trivial
    | false => exact ih

theorem valueBody_terse : valueBody.Terse fun _ => True := by
  refine (terse_skip _).bind fun _ _ => (terse_sees _).bind fun quote _ => ?_
  cases quote with
  | true => exact (terse_parse _).bind fun text _ => trivial
  | false =>
    refine (terse_sees _).bind fun brace _ => ?_
    cases brace with
    | true => exact (terse_parse _).bind fun members _ => trivial
    | false =>
      refine (terse_sees _).bind fun bracket _ => ?_
      cases bracket with
      | true => exact (terse_parse _).bind fun items _ => trivial
      | false =>
        refine terse_attempt.bind fun result _ => ?_
        cases result with
        | ok x => trivial
        | error f => exact constantFrom_terse constants

theorem duplicateKey_terse {α : Type} {keeps : α → Prop} (start : Position) (key : String) :
    (duplicateKey start key : Script Yield α).Terse keeps :=
  terse_failAt start (.append (by decide) (Text.oneLine_quoted key))

theorem membersFrom_terse (rounds : Nat) (members : Object) :
    (membersFrom rounds members).Terse fun _ => True := by
  induction rounds generalizing members with
  | zero => trivial
  | succ rounds ih =>
    refine (terse_skip _).bind fun _ _ s _ => (terse_parse _).bind fun key _ => ?_
    split
    · exact duplicateKey_terse _ _
    · refine (terse_skip _).bind fun _ _ => (terse_parse _).bind fun _ _ =>
        (terse_parse _).bind fun item _ => ?_
      split
      · exact duplicateKey_terse _ _
      · refine (terse_skip _).bind fun _ _ => (terse_succeeds _).bind fun found _ => ?_
        cases found with
        | true => exact ih _
        | false => trivial

theorem objectBody_terse : objectBody.Terse fun _ => True := by
  refine (terse_skip _).bind fun _ _ => (terse_parse _).bind fun _ _ =>
    (terse_skip _).bind fun _ _ => (terse_succeeds _).bind fun found _ => ?_
  cases found with
  | true => trivial
  | false =>
    intro s _
    exact (membersFrom_terse _ _).bind fun members _ => (terse_parse _).bind fun _ _ => trivial

theorem itemsFrom_terse (rounds : Nat) (items : List Value) :
    (itemsFrom rounds items).Terse fun _ => True := by
  induction rounds generalizing items with
  | zero => trivial
  | succ rounds ih =>
    refine (terse_parse _).bind fun item _ => (terse_skip _).bind fun _ _ =>
      (terse_succeeds _).bind fun found _ => ?_
    cases found with
    | true => exact ih _
    | false => trivial

theorem arrayBody_terse : arrayBody.Terse fun _ => True := by
  refine (terse_skip _).bind fun _ _ => (terse_parse _).bind fun _ _ =>
    (terse_skip _).bind fun _ _ => (terse_succeeds _).bind fun found _ => ?_
  cases found with
  | true => trivial
  | false =>
    intro s _
    exact (itemsFrom_terse _ _).bind fun items _ => (terse_parse _).bind fun _ _ => trivial

/-- The body of a text in quotes is decoded only if the pattern has read it. -/
theorem stringBody_terse : stringBody.Terse fun _ => True := by
  refine (terse_parse _).bind fun _ _ => (terse_parse _).bind fun raw hraw => ?_
  obtain ⟨text, rest, htakes⟩ := hraw
  obtain ⟨strokes, -, hraw⟩ := strokes_of_takes htakes
  rcases Escape.decode_strokes strokes with ⟨pieces, -, hdecode⟩ | ⟨code, -, hdecode⟩
  · rw [hraw, hdecode]
    refine (terse_succeeds _).bind fun found _ => ?_
    cases found with
    | true => trivial
    | false => exact terse_fail (by decide)
  · rw [hraw, hdecode]
    exact terse_fail (oneLine_invalidCodepoint code)

theorem numberBody_terse : numberBody.Terse fun _ => True := by
  refine terse_attempt.bind fun result _ => ?_
  cases result with
  | error f => exact terse_fail (by decide)
  | ok digits =>
    dsimp only
    cases Decimal.readFloat? (String.toList digits) with
    | none => exact terse_fail (by decide)
    | some x => trivial

theorem grammar_terse : grammar.Terse := by
  intro r
  cases r with
  | document => exact (terse_parse _).bind fun value _ => (terse_skip _).bind fun _ _ => trivial
  | value => exact valueBody_terse
  | object => exact objectBody_terse
  | array => exact arrayBody_terse
  | string => exact stringBody_terse
  | number => exact numberBody_terse

theorem oneLine_kind (r : Rule) : OneLine (kind r) := by
  cases r with
  | document | value => exact (by decide : OneLine "json::ast::JsonValue")
  | object => exact (by decide : OneLine "json::ast::JsonObject")
  | array => exact (by decide : OneLine "alloc::vec::Vec<json::ast::JsonValue>")
  | string => exact (by decide : OneLine "alloc::string::String")
  | number => exact (by decide : OneLine "f64")

end Descent.Json
