import Descent.Proofs.Calculator.Viability
import Descent.Proofs.Invocation
import Descent.Proofs.Json.Viability

/-!
What stands in front of a failure can be completed. The runs of the two grammars fail viably; a
parse of a whole text fails besides where text is left over, and then what was read is a text of
the language by itself. The failures of the bound on nesting are left out, since they tell nothing
of the text, and in the data format those of surrogates, which are reported behind the body they
stand in.
-/
namespace Descent

open Grammar

/-- How a parse of a whole text fails: as the run of its rule does, or where the run left text. -/
theorem Grammar.parseWithin_error_cases {g : Grammar} {c : Callee g.Rule} {text : String}
    {limits : Limits} {f : Failure} (h : g.parseWithin c text limits = .error (.failure f)) :
    (∃ u, (g.script c).run g.kindOf (g.run (levels limits)) (.ofString text limits) =
        .finished (.error f) u) ∨
      ∃ value u, (g.script c).run g.kindOf (g.run (levels limits)) (.ofString text limits) =
        .finished (.ok value) u ∧ f = ⟨u.location, "expected end of stream", u.lastFailure⟩ := by
  have hcompletes := g.parseWithin_completes c text limits
  rw [h] at hcompletes
  generalize hrun : g.start c (.ofString text limits) = o at hcompletes
  cases hcompletes with
  | failed _ u => exact Or.inl ⟨u, hrun⟩
  | leftOver value u => exact Or.inr ⟨value, u, hrun, rfl⟩

/-- What is viable from the start of a text, by the bytes up to the failure. -/
theorem Failure.Viable.split {texts : List Char → Prop} {text : String} {limits : Limits}
    {f : Failure} (h : f.Viable texts (.ofString text limits)) :
    ∃ front back more, Text.split f.location.offset text.toList = some (front, back) ∧
      texts (front ++ more) := by
  obtain ⟨front, back, more, hrest, hlocation, htext⟩ := h
  have hwidth : Text.width front = f.location.offset := by
    rw [hlocation]
    exact (Position.start_advance_offset front).symm
  exact ⟨front, back, more, (Text.split_eq_some_iff _ _ _ _).mpr ⟨hrest, hwidth⟩, htext⟩

namespace Calculator

theorem Tree.evaluate_eq (t : Tree .sum) (hdepth : 4 * t.nesting + 4 ≤ 512) :
    evaluate (String.ofList t.text) = .ok t.value := by
  have hparse : grammar.parse (.rule .expr) (String.ofList t.text) = .ok t.value :=
    t.parseWithin_eq String.toList_ofList.symm hdepth (Nat.lt_of_le_of_lt hdepth (by decide))
  rw [evaluate_of_visible, hparse]
  · rfl
  · rw [String.toList_ofList]
    exact t.exists_visible

theorem parseWithin_accounted {input : String} {limits : Limits} {f : Failure}
    (hlimit : limits.maxDepth < unlimited)
    (h : grammar.parseWithin (.rule .expr) input limits = .error (.failure f)) :
    Accounted .sum 4 (.ofString input limits) f := by
  have hfresh : (Scanner.ofString input limits).Fresh := ⟨input, limits, Or.inl rfl⟩
  have hs := hfresh.ready hlimit
  rcases parseWithin_error_cases h with ⟨u, hrun⟩ | ⟨value, u, hrun, rfl⟩
  · exact fails_viably _ (r := .expr) hs hrun
  · obtain ⟨t, htext, -, hdepth⟩ :
        ∃ t : Tree .sum, t.Spells (.ofString input limits) u Rule.expr.levels value :=
      sound _ .expr _ u value hs.ample.fits hrun
    have honward := run_onward (g := grammar) _ hs.ample.fits hrun
    exact Or.inr (.of_location honward htext rfl [] ⟨t, List.append_nil _, hdepth⟩)

end Calculator

namespace Json

open Script

theorem Document.parseText_eq (d : Document) (hdistinct : d.root.Distinct)
    (hdepth : d.root.need 1 ≤ 512) :
    parseText (String.ofList d.spelling) = .ok d.root.value := by
  have hparse : grammar.parse (.rule .document) (String.ofList d.spelling) = .ok d.root.value :=
    d.parseWithin_eq hdistinct String.toList_ofList.symm hdepth
      (Nat.lt_of_le_of_lt hdepth (by decide))
  rw [parseText_of_visible, hparse]
  · rfl
  · rw [String.toList_ofList]
    exact d.exists_visible

/-- The spelling of a document that the bound admits. -/
def ReadableDocument (limit : Nat) (text : List Char) : Prop :=
  ∃ d : Document, d.spelling = text ∧ d.root.Distinct ∧ d.root.need 1 ≤ limit

theorem parseWithin_accounted {input : String} {limits : Limits} {f : Failure}
    (hlimit : limits.maxDepth < unlimited)
    (h : grammar.parseWithin (.rule .document) input limits = .error (.failure f)) :
    Accounted (ReadableDocument limits.maxDepth) (.ofString input limits) f := by
  have hfresh : (Scanner.ofString input limits).Fresh := ⟨input, limits, Or.inl rfl⟩
  have hs := hfresh.ready hlimit
  have hneed :
      ∀ (t : Tree), 0 + (t.need 0 + 1) ≤ limits.maxDepth → t.need 1 ≤ limits.maxDepth := by
    intro t hdepth
    have hadd : t.need 1 = 1 + t.need 0 := t.need_add 1 0
    omega
  rcases parseWithin_error_cases h with ⟨u, hrun⟩ | ⟨value, u, hrun, rfl⟩
  · rcases parse_error_cases hrun with ⟨v, hcall⟩ | ⟨value, v, hcall, hrun⟩
    · refine (call_item_accounted (fun levels _ => fails_viably levels) hs hcall).imp ?_
      rintro text ⟨before, t, rfl, hdistinct, hdepth⟩
      exact ⟨⟨before, t, .none⟩, by simp [Document.spelling, Blanks.none], hdistinct,
        hneed t hdepth⟩
    · obtain ⟨honward, -⟩ := call_item_sound (fun levels _ => sound levels) hs.ample.fits hcall
      obtain ⟨after, w, -, -, hrun⟩ := blanks_of_run (honward.ready hs).ample.fits hrun
      cases hrun
  · obtain ⟨root, v, hcall, hbehind⟩ := parse_of_run hrun
    obtain ⟨hvOnward, before, t, ht, hdepth⟩ :=
      call_item_sound (fun levels _ => sound levels) hs.ample.fits hcall
    obtain ⟨after, w, hafter, hwOnward, hend⟩ :=
      blanks_of_run (hvOnward.ready hs).ample.fits hbehind
    cases hend
    have hpassed : (Scanner.ofString input limits).rest =
        (before.text ++ (t.spelling ++ after.text)) ++ u.rest := by
      rw [ht.text, hafter]
      simp
    exact Or.inr (.of_location (hvOnward.trans hwOnward) hpassed rfl []
      ⟨⟨before, t, after⟩, (List.append_nil _).symm, ht.distinct, hneed t hdepth⟩)

end Json

/-- The two languages have correct prefixes: what stands in front of the place where a text is
rejected can be completed to a text that is not. This leaves out the failures that the bound on
nesting is to blame for and, in the data format, those of characters that no text has. -/
theorem rejections_have_correct_prefixes (input : String) (f : Failure) :
    (Json.parseText input = .error (.fault (.failure f)) →
      (∀ code, f.message ≠ (Json.Escape.Error.invalidCodepoint code).message) →
      ¬ f.NamesBound 512 →
      ∃ front back, Text.split f.location.offset input.toList = some (front, back) ∧
        ∃ more value, Json.parseText (String.ofList (front ++ more)) = .ok value) ∧
    (Calculator.evaluate input = .error (.fault (.failure f)) → ¬ f.NamesBound 512 →
      ∃ front back, Text.split f.location.offset input.toList = some (front, back) ∧
        ∃ more value, Calculator.evaluate (String.ofList (front ++ more)) = .ok value) := by
  constructor
  · intro hrejected hcode hbound
    rcases Json.parseWithin_accounted (by decide) (Json.parseText_eq_failure_iff.mp hrejected).2 with
      (hnames | ⟨code, hmessage⟩) | hviable
    · exact absurd hnames hbound
    · exact absurd hmessage (hcode code)
    · obtain ⟨front, back, more, hsplit, d, hspelling, hdistinct, hdepth⟩ := hviable.split
      refine ⟨front, back, hsplit, more, d.root.value, ?_⟩
      rw [← hspelling]
      exact d.parseText_eq hdistinct hdepth
  · intro hrejected hbound
    rcases Calculator.parseWithin_accounted (by decide)
      (Calculator.evaluate_eq_failure_iff.mp hrejected).2 with hnames | hviable
    · exact absurd hnames hbound
    · obtain ⟨front, back, more, hsplit, t, htext, hdepth⟩ := hviable.split
      refine ⟨front, back, hsplit, more, t.value, ?_⟩
      rw [htext]
      refine t.evaluate_eq ?_
      change 0 + (4 * t.nesting + 4) ≤ 512 at hdepth
      omega

theorem Grammar.parseWithin_leftOver {g : Grammar} {c : Callee g.Rule} {text : String}
    {limits : Limits} {value : c.Yield g.Yield} {u : Scanner}
    (hrun : (g.script c).run g.kindOf (g.run (levels limits)) (.ofString text limits) =
      .finished (.ok value) u) (hrest : u.rest ≠ []) (hfailure : u.lastFailure = none) :
    g.parseWithin c text limits =
      .error (.failure ⟨u.location, "expected end of stream", none⟩) := by
  have hcompletes := g.parseWithin_completes c text limits
  have hstart : g.start c (.ofString text limits) = .finished (.ok value) u := hrun
  rw [hstart] at hcompletes
  generalize g.parseWithin c text limits = result at hcompletes ⊢
  cases hcompletes with
  | whole _ _ hwhole => exact absurd hwhole hrest
  | leftOver => rw [hfailure]

/-- A sum is rejected behind its end, if what stands there does not go on with it. -/
theorem Calculator.Tree.parseWithin_leftOver (t : Tree .sum) {rest : List Char}
    (hrest : rest ≠ []) (hfollows : Rule.sum.Follows rest) {input : String}
    (hinput : input.toList = t.text ++ rest) {limits : Limits}
    (hdepth : 4 * t.nesting + 4 ≤ limits.maxDepth) (hbelow : 4 * t.nesting + 4 < unlimited) :
    ∃ location, grammar.parseWithin (.rule .expr) input limits =
      .error (.failure ⟨location, "expected end of stream", none⟩) := by
  let first := Scanner.ofString input limits
  have hs : first.Allows (levels limits) (4 * t.nesting + 4) :=
    Scanner.ofString_allows _ hdepth hbelow
  have hnote := first.onward_note "parsing expr"
  obtain ⟨u, hcall, -, hu⟩ := t.yielded.call (hnote.frame.allows hs) hinput hfollows
  refine ⟨_, Grammar.parseWithin_leftOver (g := grammar) (c := .rule .expr)
    (Script.run_call hcall) ?_ (Scanner.lastFailure_of_call_ok hcall)⟩
  rw [hu]
  exact hrest

theorem Json.Document.parseWithin_leftOver (d : Document) (hdistinct : d.root.Distinct)
    {rest : List Char} (hrest : rest ≠ []) (hfollows : Follows rest)
    (hspace : Text.Avoids isSpace rest) {input : String}
    (hinput : input.toList = d.spelling ++ rest) {limits : Limits}
    (hdepth : d.root.need 1 ≤ limits.maxDepth) (hbelow : d.root.need 1 < unlimited) :
    ∃ location, grammar.parseWithin (.rule .document) input limits =
      .error (.failure ⟨location, "expected end of stream", none⟩) := by
  let first := Scanner.ofString input limits
  have hadd : d.root.need 1 = 1 + d.root.need 0 := d.root.need_add 1 0
  have hs : first.Allows (levels limits) (d.root.need 0 + 1) :=
    Scanner.ofString_allows _ (by omega) (by omega)
  have htext : first.rest = d.before.text ++ (d.root.spelling ++ (d.after.text ++ rest)) := by
    have hspelling : first.rest = d.spelling ++ rest := hinput
    rw [hspelling, spelling]
    simp
  obtain ⟨u, hcall, honward, hu⟩ := call_yields (g := grammar) (c := .rule .value) hs []
    (fun _ hallows => d.root.yielded hdistinct hallows htext (hfollows.blanks d.after)) .parse
  have huRest : u.rest = d.after.text ++ rest := hu
  obtain ⟨skipped, v, hskip, -, hv⟩ :=
    skip_blanks (honward.frame.allows hs) d.after huRest hspace
  have hfailure : v.lastFailure = none :=
    (Scanner.lastFailure_of_call_ne hskip (by decide)).trans
      (Scanner.lastFailure_of_call_ok hcall)
  refine ⟨_, Grammar.parseWithin_leftOver (g := grammar) (c := .rule .document)
    ((Script.run_call hcall).trans (Script.run_call hskip)) ?_ hfailure⟩
  rw [hv]
  exact hrest

theorem Calculator.one_leftOver : ∃ location, evaluate "1)" =
    .error (.fault (.failure ⟨location, "expected end of stream", none⟩)) := by
  let sum : Tree .sum := .lone .sum (.lone .product (.number .none .one .none))
  have hfollows : Rule.sum.Follows [')'] := by
    intro c hc
    cases hc
    decide
  obtain ⟨location, hparse⟩ : ∃ location, grammar.parse (.rule .expr) "1)" =
      .error (.failure ⟨location, "expected end of stream", none⟩) :=
    sum.parseWithin_leftOver (List.cons_ne_nil _ _) hfollows rfl (by decide) (by decide)
  refine ⟨location, ?_⟩
  rw [evaluate_of_visible, hparse]
  · rfl
  · exact ⟨'1', by decide, Text.isBlank_eq_false (by decide) (by decide)⟩

/-- Closing brackets too many: what stands in front of them is complete. -/
theorem rejections_have_correct_prefixes_at_brackets :
    (∃ f, Json.parseText "[]]" = .error (.fault (.failure f)) ∧
      (∀ code, f.message ≠ (Json.Escape.Error.invalidCodepoint code).message) ∧
      ¬ f.NamesBound 512 ∧
      ∃ front back, Text.split f.location.offset "[]]".toList = some (front, back) ∧
        ∃ more value, Json.parseText (String.ofList (front ++ more)) = .ok value) ∧
    ∃ f, Calculator.evaluate "1)" = .error (.fault (.failure f)) ∧ ¬ f.NamesBound 512 ∧
      ∃ front back, Text.split f.location.offset "1)".toList = some (front, back) ∧
        ∃ more value, Calculator.evaluate (String.ofList (front ++ more)) = .ok value := by
  have hunbound : ∀ location : Position,
      ¬ (⟨location, "expected end of stream", none⟩ : Failure).NamesBound 512 := by
    rintro location ⟨link, hlink, hmessage⟩
    obtain rfl := List.mem_singleton.mp hlink
    have hhead := congrArg (fun text : String => text.toList.head?) hmessage
    change "expected end of stream".toList.head? = ("recursion limit exceeded: depth " ++
      toString 513 ++ " > limit " ++ toString 512).toList.head? at hhead
    rw [String.append_assoc, String.append_assoc, String.toList_append] at hhead
    exact absurd hhead (by decide)
  constructor
  · let d : Json.Document := ⟨.none, .emptyArray .none, .none⟩
    obtain ⟨location, hparse⟩ : ∃ location, Json.grammar.parse (.rule .document) "[]]" =
        .error (.failure ⟨location, "expected end of stream", none⟩) :=
      d.parseWithin_leftOver trivial (List.cons_ne_nil _ _) (.mark (by decide) [])
        (Json.avoids_mark (by decide) []) rfl (by decide) (by decide)
    have hrejected : Json.parseText "[]]" =
        .error (.fault (.failure ⟨location, "expected end of stream", none⟩)) := by
      rw [Json.parseText_of_visible, hparse]
      · rfl
      · exact ⟨'[', by decide, Text.isBlank_eq_false (by decide) (by decide)⟩
    have hcode : ∀ code, "expected end of stream" ≠
        (Json.Escape.Error.invalidCodepoint code).message := by
      intro code hmessage
      have hhead := congrArg (fun text : String => text.toList.head?) hmessage
      change "expected end of stream".toList.head? = ("invalid unicode character U+" ++
        String.ofList (Json.Escape.paddedHex code)).toList.head? at hhead
      rw [String.toList_append] at hhead
      exact absurd hhead (by simp)
    exact ⟨_, hrejected, hcode, hunbound _,
      (rejections_have_correct_prefixes "[]]" _).1 hrejected hcode (hunbound _)⟩
  · obtain ⟨location, hrejected⟩ := Calculator.one_leftOver
    exact ⟨_, hrejected, hunbound _,
      (rejections_have_correct_prefixes "1)" _).2 hrejected (hunbound _)⟩

end Descent
