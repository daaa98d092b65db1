import Descent.Proofs.Calculator.Refusal
import Descent.Proofs.Json.Refusal

/-!
Texts that the bound on nesting alone keeps from being parsed. What is parsed without a bound has
a derivation, and if this does not fit under a bound, the bound is to blame for the failure. The
calculator always says so. The data format does, unless the bound reaches just the rule of a
number: a number is one of several things that a value may be, and like every such attempt its
failure gives way to that of the next one.
-/
namespace Descent

open Grammar

theorem Grammar.parseWithin_of_failsWith {g : Grammar} {c : Callee g.Rule} {text : String}
    {limits : Limits} {P : Failure → Prop}
    (h : ((g.script c).run g.kindOf (g.run (levels limits))
      (.ofString text limits)).FailsWith P) :
    ∃ f, g.parseWithin c text limits = .error (.failure f) ∧ P f := by
  obtain ⟨f, t, hrun, hf⟩ := h
  have hstart : g.start c (.ofString text limits) = .finished (.error f) t := hrun
  refine ⟨f, ?_, hf⟩
  unfold parseWithin
  rw [hstart]
  rfl

namespace Calculator

/-- A sum that does not fit under the bound is rejected, and the failure says so. -/
theorem Tree.parseWithin_refused (t : Tree .sum) {input : String} (htext : t.text = input.toList)
    {limits : Limits} (hdeep : limits.maxDepth < 4 * t.nesting + 4)
    (hlimit : limits.maxDepth < unlimited) :
    ∃ f, grammar.parseWithin (.rule .expr) input limits = .error (.failure f) ∧
      f.NamesBound limits.maxDepth := by
  have hfresh : (Scanner.ofString input limits).Fresh := ⟨input, limits, Or.inl rfl⟩
  have hdepth : (Scanner.ofString input limits).depth = 0 := rfl
  have hlimits : (Scanner.ofString input limits).limits = limits := rfl
  have hrest : (Scanner.ofString input limits).rest = t.text ++ [] := by
    rw [htext, List.append_nil]
    rfl
  have hlevels : Rule.expr.levels = 4 := rfl
  have hrefused := t.tooDeep.expr_refused (hfresh.ample hlimit) (by rw [hdepth]; omega)
    (by rw [hdepth, hlimits, hlevels]; omega) hrest (Rule.follows_nil _)
  exact parseWithin_of_failsWith (g := grammar) (c := .rule .expr) hrefused

theorem rejection_names_bound {input : String} {limits : Limits} {value : Float}
    (haccepted : grammar.parseWithin (.rule .expr) input limits.withoutDepthBound = .ok value)
    (hrejected : ∀ v, grammar.parseWithin (.rule .expr) input limits ≠ .ok v) :
    ∃ f, grammar.parseWithin (.rule .expr) input limits = .error (.failure f) ∧
      f.NamesBound limits.maxDepth := by
  obtain ⟨t, htext, -, -⟩ := exists_tree_of_parseWithin haccepted
  have hlimit : limits.maxDepth < unlimited := by
    refine Nat.lt_of_not_le fun hfree => hrejected value ?_
    rw [← haccepted]
    exact (parseWithin_of_unlimited _ _ hfree (Nat.le_refl _)).symm
  refine t.parseWithin_refused htext (Nat.lt_of_not_le fun hfits => ?_) hlimit
  exact hrejected _ (t.parseWithin_eq htext hfits (Nat.lt_of_le_of_lt hfits hlimit))

end Calculator

namespace Json

open Script

/-- The numbers of a document, each with the arrays and objects that it stands in and with the
text from it on. -/
def Document.numbers (d : Document) : List (Nat × List Char) := d.root.numbers 0 d.after.text

theorem documentBody_refused {P : Failure → Prop} {room : Nat} {s : Scanner} (hs : s.Ample room)
    (hadmits : s.depth + 1 ≤ s.limits.maxDepth)
    (h : ∀ levels, (s.entered []).Ample levels → (s.entered []).depth = s.depth + 1 →
      (valueBody.run grammar.kindOf (grammar.run levels) (s.entered [])).FailsWith P) :
    (documentBody.run grammar.kindOf (grammar.run room) s).FailsWith P :=
  Grammar.parse_failsWith (g := grammar) (c := .rule .value) hs hadmits h _

theorem parseText_of_failsWith {P : Failure → Prop} {input : String}
    (hvisible : ∃ c ∈ input.toList, Text.isBlank c = false)
    (h : ∀ (levels : Nat) (s : Scanner), s.Ample levels → s.depth = 1 →
      s.limits.maxDepth = 512 → s.rest = input.toList → s.location = .start →
      (valueBody.run grammar.kindOf (grammar.run levels) s).FailsWith P) :
    ∃ f, parseText input = .error (.fault (.failure f)) ∧ P f := by
  let first := Scanner.ofString input {}
  have hfresh : first.Fresh := ⟨input, {}, Or.inl rfl⟩
  have hfits : (0 : Nat) + 1 ≤ 512 ∧ 512 < unlimited := by decide
  have hrun : (documentBody.run grammar.kindOf (grammar.run (Grammar.levels {})) first).FailsWith
      P := by
    refine documentBody_refused (hfresh.ample hfits.2) hfits.1 fun levels hs hdown => ?_
    exact h levels _ hs hdown rfl rfl rfl
  obtain ⟨f, hparse, hf⟩ :=
    parseWithin_of_failsWith (g := grammar) (c := .rule .document) hrun
  have hwhole : grammar.parse (.rule .document) input = .error (.failure f) := hparse
  refine ⟨f, ?_, hf⟩
  rw [parseText_of_visible hvisible, hwhole]
  rfl

/-- A document that does not fit under the bound is rejected, and the bound is to blame. -/
theorem Document.parseWithin_refused (d : Document) (hdistinct : d.root.Distinct) {input : String}
    (hspelling : d.spelling = input.toList) {limits : Limits}
    (hdeep : limits.maxDepth < d.root.need 1) (hlimit : limits.maxDepth < unlimited) :
    ∃ f, grammar.parseWithin (.rule .document) input limits = .error (.failure f) ∧
      Blames d.numbers (.ofString input limits) f := by
  have hfresh : (Scanner.ofString input limits).Fresh := ⟨input, limits, Or.inl rfl⟩
  have hdepth : (Scanner.ofString input limits).depth = 0 := rfl
  have hlimits : (Scanner.ofString input limits).limits = limits := rfl
  have hrest : (Scanner.ofString input limits).rest =
      d.before.text ++ (d.root.spelling ++ d.after.text) := hspelling.symm
  have hample := hfresh.ample hlimit
  have hfollows : Follows d.after.text := by
    have h := Follows.nil.blanks d.after
    rw [List.append_nil] at h
    exact h
  have hadd : d.root.need 1 = 1 + d.root.need 0 := d.root.need_add 1 0
  refine parseWithin_of_failsWith (g := grammar) (c := .rule .document) ?_
  by_cases hbound : limits.maxDepth = 0
  · have hfull : (Scanner.ofString input limits).depth =
        (Scanner.ofString input limits).limits.maxDepth := by
      rw [hdepth, hlimits, hbound]
    exact (Grammar.parse_at_bound (g := grammar) hample hfull (.rule .value) _).imp
      fun f h => Or.inl h
  · refine documentBody_refused hample (by rw [hdepth, hlimits]; omega) fun levels hs hdown => ?_
    have hinside : ((Scanner.ofString input limits).entered []).limits = limits := rfl
    exact d.root.tooDeep hdistinct 0 hs (by rw [hdown, hdepth])
      (by rw [hdown, hdepth, hinside]; omega) (by rw [hdown, hdepth, hinside]; omega)
      hrest hfollows

theorem rejection_blames_bound {input : String} {limits : Limits} {value : Value}
    (haccepted : grammar.parseWithin (.rule .document) input limits.withoutDepthBound = .ok value)
    (hrejected : ∀ v, grammar.parseWithin (.rule .document) input limits ≠ .ok v) :
    ∃ d : Document, d.spelling = input.toList ∧ d.root.value = value ∧
      ∃ f, grammar.parseWithin (.rule .document) input limits = .error (.failure f) ∧
        Blames d.numbers (.ofString input limits) f := by
  obtain ⟨d, hspelling, hdistinct, -, hvalue⟩ := exists_document_of_parseWithin haccepted
  have hlimit : limits.maxDepth < unlimited := by
    refine Nat.lt_of_not_le fun hfree => hrejected value ?_
    rw [← haccepted]
    exact (parseWithin_of_unlimited _ _ hfree (Nat.le_refl _)).symm
  refine ⟨d, hspelling, hvalue, d.parseWithin_refused hdistinct hspelling
    (Nat.lt_of_not_le fun hfits => ?_) hlimit⟩
  exact hrejected _ (d.parseWithin_eq hdistinct hspelling hfits (Nat.lt_of_le_of_lt hfits hlimit))

/-- The two kinds of failure exclude each other: their messages begin with other letters. -/
theorem unparsed_not_namesBound (location : Position) {reason : Reason}
    (h : reason ∈ lastReasons) (limit : Nat) : ¬ (unparsed location reason).NamesBound limit := by
  have hhead : ∀ {text rest : String} {c : Char} {cs : List Char}, text.toList = c :: cs →
      (text ++ rest).toList.head? = some c := by
    intro text rest c cs htext
    rw [String.toList_append, htext]
    rfl
  have hbound : (Reason.tooDeep (limit + 1) limit).message.toList.head? = some 'r' := by
    change ("recursion limit exceeded: depth " ++ toString (limit + 1) ++ " > limit " ++
      toString limit).toList.head? = some 'r'
    rw [String.append_assoc, String.append_assoc]
    exact hhead rfl
  intro hnames
  obtain ⟨link, hlink, hmessage⟩ := hnames
  rw [← hmessage] at hbound
  simp only [unparsed, Failure.ofReason, Failure.chain, List.mem_cons, List.not_mem_nil,
    or_false] at hlink
  simp only [lastReasons, List.mem_cons, List.not_mem_nil, or_false] at h
  rcases hlink with rfl | rfl
  · change "unable to parse value".toList.head? = some 'r' at hbound
    exact absurd hbound (by decide)
  · rcases h with rfl | rfl
    · have hother : (Reason.unexpectedEnd "null").message.toList.head? = some 'u' := hhead rfl
      rw [hother] at hbound
      exact absurd hbound (by decide)
    · have hother : (Reason.literalMismatch "null").message.toList.head? = some 'l' := by
        change ("literal " ++ Text.quoted "null" ++ " did not match").toList.head? = some 'l'
        rw [String.append_assoc]
        exact hhead rfl
      rw [hother] at hbound
      exact absurd hbound (by decide)

def Numeral.one : Numeral where
  negative := false
  whole := ⟨['1'], by decide, Text.forall_of_all rfl⟩
  fraction := none
  power := none
  leading := by decide

def Document.one : Document := ⟨.none, .number .one, .none⟩

/-- Where the bound reaches the rule of a number and not its digits, the failure does not name it.
-/
theorem one_rejected_without_bound :
    (∃ value, grammar.parseWithin (.rule .document) "1"
      (Limits.withoutDepthBound { maxDepth := 2 }) = .ok value) ∧
    ∃ f, grammar.parseWithin (.rule .document) "1" { maxDepth := 2 } = .error (.failure f) ∧
      ¬ f.NamesBound 2 := by
  constructor
  · exact ⟨_, Document.one.parseWithin_eq trivial rfl (by decide) (by decide)⟩
  · let first := Scanner.ofString "1" { maxDepth := 2 }
    have hfresh : first.Fresh := ⟨"1", { maxDepth := 2 }, Or.inl rfl⟩
    have hrefused := documentBody_refused (hfresh.ample (by decide)) (by decide)
      fun levels hs hdown => by
        have hrest : (first.entered []).rest = Blanks.none.text ++ (Numeral.one.text ++ []) := rfl
        exact Tree.number_refused .one hs (by rw [hdown]; rfl) hrest
    obtain ⟨f, hparse, front, reason, hreason, -, rfl⟩ :=
      parseWithin_of_failsWith (g := grammar) (c := .rule .document) hrefused
    exact ⟨_, hparse, unparsed_not_namesBound _ hreason 2⟩

end Json

/-- What the bound alone keeps from being parsed is rejected with a failure that says so. The data
format makes one exception: a number inside of so many arrays and objects that the bound reaches
its rule, and not its digits, may be reported as a value that is none of the constants. -/
theorem rejections_blame_bound (input : String) (limits : Limits) :
    (∀ value,
      Calculator.grammar.parseWithin (.rule .expr) input limits.withoutDepthBound = .ok value →
      (∀ v, Calculator.grammar.parseWithin (.rule .expr) input limits ≠ .ok v) →
      ∃ f, Calculator.grammar.parseWithin (.rule .expr) input limits = .error (.failure f) ∧
        f.NamesBound limits.maxDepth) ∧
    (∀ value,
      Json.grammar.parseWithin (.rule .document) input limits.withoutDepthBound = .ok value →
      (∀ v, Json.grammar.parseWithin (.rule .document) input limits ≠ .ok v) →
      ∃ d : Json.Document, d.spelling = input.toList ∧ d.root.value = value ∧
        ∃ f, Json.grammar.parseWithin (.rule .document) input limits = .error (.failure f) ∧
          (f.NamesBound limits.maxDepth ∨
            ∃ level front rest, ∃ reason ∈ Json.lastReasons, (level, rest) ∈ d.numbers ∧
              limits.maxDepth = 2 * level + 2 ∧ input.toList = front ++ rest ∧
              f = Json.unparsed (Position.start.advance front) reason)) := by
  constructor
  · intro value haccepted hrejected
    exact Calculator.rejection_names_bound haccepted hrejected
  · intro value haccepted hrejected
    exact Json.rejection_blames_bound haccepted hrejected

/-- A number that does not fit, in both languages. -/
theorem rejections_blame_bound_one :
    let limits : Limits := { maxDepth := 1 }
    (∃ f, Calculator.grammar.parseWithin (.rule .expr) "1" limits = .error (.failure f) ∧
      f.NamesBound 1) ∧
    ∃ f, Json.grammar.parseWithin (.rule .document) "1" limits = .error (.failure f) ∧
      f.NamesBound 1 := by
  intro limits
  obtain ⟨hcalculator, hjson⟩ := rejections_blame_bound "1" limits
  constructor
  · let one : Calculator.Numeral := ⟨⟨['1'], by decide, Text.forall_of_all rfl⟩, none⟩
    let sum : Calculator.Tree .sum :=
      .lone .sum (.lone .product (.number ⟨[], by simp⟩ one ⟨[], by simp⟩))
    refine hcalculator _ (sum.parseWithin_eq rfl (by decide) (by decide)) fun v h => ?_
    obtain ⟨t, -, hdepth, -⟩ := Calculator.exists_tree_of_parseWithin h
    change 4 * t.nesting + 4 ≤ 1 at hdepth
    omega
  · obtain ⟨d, -, -, f, hparse, hblame⟩ := hjson _
      (Json.Document.one.parseWithin_eq trivial rfl (by decide) (by decide)) fun v h => by
        obtain ⟨d, -, -, hdepth, -⟩ := Json.exists_document_of_parseWithin h
        have hneed := d.root.need_pos
        have hadd : d.root.need 1 = 1 + d.root.need 0 := d.root.need_add 1 0
        change d.root.need 1 ≤ 1 at hdepth
        omega
    rcases hblame with hnames | ⟨level, _, _, _, _, _, hlevel, _, _⟩
    · exact ⟨f, hparse, hnames⟩
    · change 1 = 2 * level + 2 at hlevel
      omega

end Descent
