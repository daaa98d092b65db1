import Descent.Regex.Reader

/-!
Reading a pattern in front of a closing parenthesis. Where a pattern ends, the reader stops of its
own accord, and it stops in the same way where a parenthesis stands that closes nothing in the
pattern. What a reader makes of a text therefore carries over to the text with a parenthesis put
behind it, which is left to be read, unless the text ends with a comment and the parenthesis
becomes a part of that. The lemmas go through the readers one by one, in the order in which they
build on each other; where a reader counts down a bound, the longer text may have a larger one.
-/
namespace Descent.Regex

/-- A text left, and the one that is left of the closed text at the same place. -/
inductive Closes : List Char → List Char → Prop
  | behind (cs : List Char) : Closes cs (cs ++ [')'])
  /-- The parenthesis is part of a comment. -/
  | swallowed : Closes [] []

theorem isBlank_parenthesis : Text.isBlank ')' = false :=
  Text.isBlank_eq_false (by decide) (by decide)

/-- What may come next in place of the end is the parenthesis. -/
def SameNext (next next' : Option Char) : Prop :=
  next' = next ∨ (next = none ∧ next' = some ')')

theorem SameNext.eq_some_iff {next next' : Option Char} (h : SameNext next next') {c : Char}
    (hc : c ≠ ')') : next = some c ↔ next' = some c := by
  rcases h with rfl | ⟨rfl, rfl⟩
  · exact Iff.rfl
  · simp [hc.symm]

theorem SameNext.any_eq {next next' : Option Char} (h : SameNext next next') {p : Char → Bool}
    (hp : p ')' = false) : next'.any p = next.any p := by
  rcases h with rfl | ⟨rfl, rfl⟩
  · rfl
  · exact hp

structure Reading.Closed (r r' : Reading) : Prop where
  rest : Closes r.rest r'.rest
  extended : r'.extended = r.extended
  groups : r'.groups = r.groups
  names : r'.names = r.names

namespace Closes

theorem length_le {cs cs' : List Char} (h : Closes cs cs') : cs.length ≤ cs'.length := by
  cases h with
  | behind => simp
  | swallowed => exact Nat.le_refl _

theorem cons_left {c : Char} {cs cs' : List Char} (h : Closes (c :: cs) cs') :
    ∃ ds, cs' = c :: ds ∧ Closes cs ds := by
  cases h with
  | behind => exact ⟨cs ++ [')'], rfl, .behind cs⟩

theorem nil_left {cs' : List Char} (h : Closes [] cs') : cs' = [')'] ∨ cs' = [] := by
  cases h with
  | behind => exact .inl rfl
  | swallowed => exact .inr rfl

theorem sameNext {cs cs' : List Char} (h : Closes cs cs') : SameNext cs.head? cs'.head? := by
  cases cs with
  | nil =>
    rcases h.nil_left with rfl | rfl
    · exact .inr ⟨rfl, rfl⟩
    · exact .inl rfl
  | cons c cs =>
    obtain ⟨ds, rfl, -⟩ := h.cons_left
    exact .inl rfl

/-- A text without the parenthesis comes next in both, or in none. -/
theorem isPrefixOf_eq {text : List Char} (htext : ')' ∉ text) {cs cs' : List Char}
    (h : Closes cs cs') : text.isPrefixOf cs' = text.isPrefixOf cs := by
  induction text generalizing cs cs' with
  | nil => rfl
  | cons d text ih =>
    rw [List.mem_cons, not_or] at htext
    cases cs with
    | nil =>
      rcases h.nil_left with rfl | rfl
      · simp [List.isPrefixOf, Ne.symm htext.1]
      · rfl
    | cons c cs =>
      obtain ⟨ds, rfl, hds⟩ := h.cons_left
      simp only [List.isPrefixOf, ih htext.2 hds]

theorem drop {cs cs' : List Char} (h : Closes cs cs') {n : Nat} (hn : n ≤ cs.length) :
    Closes (cs.drop n) (cs'.drop n) := by
  cases h with
  | behind =>
    rw [List.drop_append_of_le_length hn]
    exact .behind _
  | swallowed =>
    rw [List.drop_nil]
    exact .swallowed

theorem dropWhile {p : Char → Bool} (hp : p ')' = false) {cs cs' : List Char}
    (h : Closes cs cs') : Closes (cs.dropWhile p) (cs'.dropWhile p) := by
  induction cs generalizing cs' with
  | nil =>
    rcases h.nil_left with rfl | rfl
    · rw [List.dropWhile_nil, List.dropWhile_cons_of_neg (by rw [hp]; exact Bool.false_ne_true)]
      exact .behind []
    · exact .swallowed
  | cons c cs ih =>
    obtain ⟨ds, rfl, hds⟩ := h.cons_left
    simp only [List.dropWhile_cons]
    split
    · exact ih hds
    · exact h

/-- The front parts of a kind are the same, unless they are all there is. -/
theorem takeWhile_eq {p : Char → Bool} (hp : p ')' = true) {cs cs' : List Char}
    (h : Closes cs cs') :
    (cs'.takeWhile p = cs.takeWhile p ∧ Closes (cs.dropWhile p) (cs'.dropWhile p)) ∨
      (cs.dropWhile p = [] ∧ cs'.dropWhile p = []) := by
  induction cs generalizing cs' with
  | nil =>
    rcases h.nil_left with rfl | rfl
    · exact .inr ⟨rfl, by rw [List.dropWhile_cons_of_pos hp, List.dropWhile_nil]⟩
    · exact .inr ⟨rfl, rfl⟩
  | cons c cs ih =>
    obtain ⟨ds, rfl, hds⟩ := h.cons_left
    by_cases hc : p c = true
    · simp only [List.takeWhile_cons_of_pos hc, List.dropWhile_cons_of_pos hc, List.cons.injEq,
        true_and]
      exact ih hds
    · simp only [List.takeWhile_cons_of_neg hc, List.dropWhile_cons_of_neg hc, true_and]
      exact .inl h

theorem dropComments (comment : Bool) {cs cs' : List Char} (h : Closes cs cs') :
    Closes (Reader.dropComments comment cs) (Reader.dropComments comment cs') := by
  induction cs generalizing comment cs' with
  | nil =>
    rcases h.nil_left with rfl | rfl
    · cases comment with
      | true => exact .swallowed
      | false =>
        have hkept : Reader.dropComments false [')'] = [')'] := by
          simp only [Reader.dropComments, isBlank_parenthesis, Bool.false_eq_true, if_false]
          rfl
        rw [hkept]
        exact .behind []
    · cases comment <;> exact .swallowed
  | cons c cs ih =>
    obtain ⟨ds, rfl, hds⟩ := h.cons_left
    cases comment with
    | true => exact ih _ hds
    | false =>
      simp only [Reader.dropComments]
      split
      · exact ih _ hds
      · split
        · exact ih _ hds
        · exact h

end Closes

namespace Reader

variable {α β γ δ : Type}

/-- Whatever the first reader makes of a reading, the second makes the like of the closed one. -/
def CarriesAt (R : α → β → Prop) (m : Reader α) (m' : Reader β) (r r' : Reading) : Prop :=
  ∀ a t, m r = some (a, t) → ∃ b t', m' r' = some (b, t') ∧ R a b ∧ t.Closed t'

def Carries (R : α → β → Prop) (m : Reader α) (m' : Reader β) : Prop :=
  ∀ r r', r.Closed r' → CarriesAt R m m' r r'

theorem bind_eq_some_iff {m : Reader α} {f : α → Reader β} {r : Reading} {b : β} {t : Reading} :
    (m >>= f) r = some (b, t) ↔ ∃ a s, m r = some (a, s) ∧ f a s = some (b, t) := by
  change (m r).bind (fun x => f x.1 x.2) = some (b, t) ↔ _
  rw [Option.bind_eq_some_iff]
  exact Prod.exists

section Steps

variable {R : α → β → Prop} {S : γ → δ → Prop}

theorem Carries.pure {a : α} {b : β} (h : R a b) : Carries R (pure a) (pure b) := by
  intro r r' hr a' t hrun
  cases hrun
  exact ⟨b, r', rfl, h, hr⟩

theorem Carries.refuse (m : Reader β) : Carries R refuse m := by
  intro r r' hr a t hrun
  cases hrun

theorem Carries.bind {m : Reader α} {m' : Reader β} {f : α → Reader γ} {f' : β → Reader δ}
    (h : Carries R m m') (hf : ∀ a b, R a b → Carries S (f a) (f' b)) :
    Carries S (m >>= f) (m' >>= f') := by
  intro r r' hr c t hrun
  obtain ⟨a, s, hm, hfa⟩ := bind_eq_some_iff.mp hrun
  obtain ⟨b, s', hm', hab, hs⟩ := h r r' hr a s hm
  obtain ⟨d, t', hfb, hcd, ht⟩ := hf a b hab s s' hs c t hfa
  exact ⟨d, t', bind_eq_some_iff.mpr ⟨b, s', hm', hfb⟩, hcd, ht⟩

theorem Carries.andThen {m m' : Reader α} {f : α → Reader γ} {f' : α → Reader δ}
    (h : Carries Eq m m') (hf : ∀ a, Carries S (f a) (f' a)) :
    Carries S (m >>= f) (m' >>= f') :=
  h.bind fun a _ hab => hab ▸ hf a

theorem Carries.ite {c : Prop} [Decidable c] {m₁ m₂ : Reader α} {m₁' m₂' : Reader β}
    (h₁ : Carries R m₁ m₁') (h₂ : Carries R m₂ m₂') :
    Carries R (if c then m₁ else m₂) (if c then m₁' else m₂') := by
  split
  · exact h₁
  · exact h₂

end Steps

theorem carries_require (condition : Bool) :
    Carries Eq (require condition) (require condition) := by
  cases condition with
  | true => exact .pure rfl
  | false => exact .refuse _

theorem carries_orRefuse (o : Option α) : Carries Eq (orRefuse o) (orRefuse o) := by
  cases o with
  | none => exact .refuse _
  | some a => exact .pure rfl

theorem carries_rest : Carries Closes rest rest := by
  intro r r' hr a t hrun
  cases hrun
  exact ⟨_, _, rfl, hr.rest, hr⟩

theorem carriesAt_rest {R : α → β → Prop} {f : List Char → Reader α} {f' : List Char → Reader β}
    {r r' : Reading} (h : CarriesAt R (f r.rest) (f' r'.rest) r r') :
    CarriesAt R (rest >>= f) (rest >>= f') r r' := h

theorem carries_get : Carries Reading.Closed get get := by
  intro r r' hr a t hrun
  cases hrun
  exact ⟨_, _, rfl, hr, hr⟩

theorem carries_setRest {cs cs' : List Char} (h : Closes cs cs') :
    Carries Eq (setRest cs) (setRest cs') := by
  intro r r' hr a t hrun
  cases hrun
  exact ⟨_, _, rfl, rfl, h, hr.extended, hr.groups, hr.names⟩

theorem carries_extended : Carries Eq extended extended := by
  intro r r' hr a t hrun
  cases hrun
  exact ⟨_, _, rfl, hr.extended.symm, hr⟩

theorem carries_setExtended (value : Bool) :
    Carries Eq (setExtended value) (setExtended value) := by
  intro r r' hr a t hrun
  cases hrun
  exact ⟨_, _, rfl, rfl, hr.rest, rfl, hr.groups, hr.names⟩

theorem carries_peek? : Carries SameNext peek? peek? :=
  carries_rest.bind fun _ _ h => .pure h.sameNext

theorem carries_skipBlanks : Carries Eq skipBlanks skipBlanks := by
  refine carries_extended.andThen fun value => .ite ?_ (.pure rfl)
  exact carries_rest.bind fun cs cs' h => carries_setRest (h.dropComments false)

theorem carries_next : Carries Eq next next := by
  refine carries_rest.bind fun cs cs' h => ?_
  cases cs with
  | nil => exact .refuse _
  | cons c cs =>
    obtain ⟨ds, rfl, hds⟩ := h.cons_left
    exact (carries_setRest hds).andThen fun _ => .pure rfl

theorem carries_step : Carries Eq step step :=
  carries_next.andThen fun _ => carries_skipBlanks.andThen fun _ => .pure rfl

theorem carries_expect (c : Char) : Carries Eq (expect c) (expect c) :=
  carries_next.andThen fun _ => carries_require _

theorem carries_accept {text : List Char} (htext : ')' ∉ text) :
    Carries Eq (accept text) (accept text) := by
  refine carries_rest.bind fun cs cs' h => ?_
  rw [h.isPrefixOf_eq htext]
  split
  · next hprefix =>
    have hlength : text.length ≤ cs.length :=
      (List.isPrefixOf_iff_prefix.mp hprefix).length_le
    exact (carries_setRest (h.drop hlength)).andThen fun _ => .pure rfl
  · exact .pure rfl

theorem carries_untilBrace {n n' : Nat} (h : n ≤ n') :
    Carries Eq (untilBrace n) (untilBrace n') := by
  induction n generalizing n' with
  | zero => exact .refuse _
  | succ n ih =>
    obtain ⟨n', rfl⟩ : ∃ k, n' = k + 1 := ⟨n' - 1, by omega⟩
    refine carries_next.andThen fun c => .ite (.pure rfl) ?_
    exact carries_skipBlanks.andThen fun _ =>
      (ih (Nat.le_of_succ_le_succ h)).andThen fun _ => .pure rfl

theorem carries_braced : Carries Eq braced braced :=
  carries_skipBlanks.andThen fun _ => carries_rest.bind fun _ _ h =>
    carries_untilBrace (Nat.succ_le_succ h.length_le)

theorem carries_steps (n : Nat) : Carries Eq (steps n) (steps n) := by
  induction n with
  | zero => exact .pure rfl
  | succ n ih => exact carries_step.andThen fun _ => ih.andThen fun _ => .pure rfl

theorem carries_charOfHex (digits : List Char) :
    Carries Eq (charOfHex digits) (charOfHex digits) :=
  (carries_orRefuse _).andThen fun _ => (carries_require _).andThen fun _ => .pure rfl

theorem carries_hexEscape (count : Nat) : Carries Eq (hexEscape count) (hexEscape count) := by
  refine carries_skipBlanks.andThen fun _ => (carries_accept (by decide)).andThen fun _ =>
    .ite ?_ ?_
  · refine carries_braced.andThen fun digits => (carries_charOfHex digits).andThen fun _ => ?_
    exact carries_skipBlanks.andThen fun _ => .pure rfl
  · exact (carries_steps count).andThen fun digits =>
      (carries_charOfHex digits).andThen fun _ => .pure rfl

theorem carries_property (negated : Bool) : Carries Eq (property negated) (property negated) := by
  refine carries_skipBlanks.andThen fun _ => (carries_accept (by decide)).andThen fun _ =>
    .ite ?_ ?_
  · exact carries_braced.andThen fun _ => (carries_orRefuse _).andThen fun _ => .pure rfl
  · exact carries_step.andThen fun _ => (carries_require _).andThen fun _ =>
      (carries_orRefuse _).andThen fun _ => .pure rfl

theorem carries_wordBorder : Carries Eq wordBorder wordBorder := by
  refine carries_rest.bind fun saved saved' hsaved => ?_
  refine (carries_accept (by decide)).andThen fun _ => .ite ?_ (.pure rfl)
  refine carries_skipBlanks.andThen fun _ => carries_peek?.bind fun c c' hc => ?_
  cases c with
  | none => exact .refuse _
  | some c =>
    obtain rfl : c' = some c := by
      rcases hc with h | ⟨h, -⟩
      · exact h
      · cases h
    refine .ite (carries_braced.andThen fun name => ?_) ?_
    · split
      · exact .pure rfl
      · exact .pure rfl
      · exact .pure rfl
      · exact .pure rfl
      · exact .refuse _
    · exact (carries_setRest hsaved).andThen fun _ => .pure rfl

theorem carries_escape : Carries Eq escape escape := by
  refine carries_next.andThen fun c => ?_
  split <;> first
    | exact .pure rfl
    | exact carries_hexEscape _
    | exact carries_property _
    | exact carries_wordBorder.andThen fun _ => .pure rfl
    | exact (carries_require _).andThen fun _ => .pure rfl

theorem drop_length_takeWhile (p : Char → Bool) (cs : List Char) :
    cs.drop (cs.takeWhile p).length = cs.dropWhile p := by
  calc cs.drop (cs.takeWhile p).length
      = (cs.takeWhile p ++ cs.dropWhile p).drop (cs.takeWhile p).length := by
        rw [List.takeWhile_append_dropWhile]
    _ = cs.dropWhile p := List.drop_left

/-- Behind the opening of a named class, its name reaches up to a colon. Where there is none, both
texts are used up, and the name is of no consequence. -/
theorem carries_asciiClass? : Carries Eq asciiClass? asciiClass? := by
  refine carries_rest.bind fun saved saved' hsaved => ?_
  refine (carries_accept (by decide)).andThen fun _ => .ite ?_ (.pure rfl)
  refine (carries_accept (by decide)).andThen fun negated => ?_
  have hback := (carries_setRest hsaved).andThen fun _ =>
    Carries.pure (rfl : (none : Option Bracket) = none)
  intro r r' hr
  refine carriesAt_rest (carriesAt_rest ?_)
  rw [drop_length_takeWhile, drop_length_takeWhile]
  rcases hr.rest.takeWhile_eq (p := (· ≠ ':')) rfl with ⟨hname, hclose⟩ | ⟨hnil, hnil'⟩
  · rw [hname]
    refine (carries_setRest hclose).andThen (fun _ =>
      (carries_accept (by decide)).andThen fun _ => .ite ?_ hback) r r' hr
    split
    · exact .pure rfl
    · exact hback
  · rw [hnil, hnil']
    -- Nothing is left that could end the name, so that both go back to the bracket.
    exact hback { r with rest := [] } { r' with rest := [] }
      ⟨.swallowed, hr.extended, hr.groups, hr.names⟩

theorem carries_classAtom : Carries Eq classAtom classAtom := by
  refine carries_next.andThen fun c => ?_
  split
  · exact carries_escape
  · exact .pure rfl

theorem carries_memberOf (phrase : Phrase) :
    Carries Eq (memberOf phrase) (memberOf phrase) := by
  cases phrase with
  | char | named => exact .pure rfl
  | _ => exact .refuse _

/-- A text that blanks and perhaps a comment begin does not begin with what is neither. -/
theorem head?_ne_of_dropWhile {c : Char} (hblank : Text.isBlank c = false) {cs : List Char}
    (h : (cs.dropWhile Text.isBlank).head? ≠ some c) : cs.head? ≠ some c := by
  intro hhead
  cases cs with
  | nil => cases hhead
  | cons d cs =>
    cases hhead
    rw [List.dropWhile_cons_of_neg (by rw [hblank]; exact Bool.false_ne_true)] at h
    exact h rfl

/-- The mark that decides what a hyphen means is the same with the parenthesis behind the text. -/
theorem behindHyphen_eq_some_iff (value : Bool) {c : Char} (hc : c = ']' ∨ c = '-')
    {cs cs' : List Char} (h : Closes cs cs') :
    behindHyphen value cs = some c ↔ behindHyphen value cs' = some c := by
  have hparenthesis : c ≠ ')' := by rcases hc with rfl | rfl <;> decide
  have hblank : Text.isBlank c = false := by
    rcases hc with rfl | rfl <;> exact Text.isBlank_eq_false (by decide) (by decide)
  cases value with
  | false => exact h.sameNext.eq_some_iff hparenthesis
  | true =>
    have hdrop := h.dropWhile isBlank_parenthesis
    have hhead : (cs.dropWhile Text.isBlank).head? ≠ some c → cs.head? ≠ some c :=
      head?_ne_of_dropWhile hblank
    have hhead' : (cs'.dropWhile Text.isBlank).head? ≠ some c → cs'.head? ≠ some c :=
      head?_ne_of_dropWhile hblank
    simp only [behindHyphen, if_true]
    generalize cs.dropWhile Text.isBlank = ds at hdrop hhead
    generalize cs'.dropWhile Text.isBlank = ds' at hdrop hhead'
    cases ds with
    | nil =>
      have hnil : ([] : List Char).head? ≠ some c := Option.some_ne_none c ∘ Eq.symm
      rcases hdrop.nil_left with rfl | rfl
      · simp [hhead hnil, hparenthesis.symm]
      · simp [hhead hnil, hhead' hnil]
    | cons d ds =>
      obtain ⟨es, rfl, hes⟩ := hdrop.cons_left
      by_cases hd : d = '#'
      · subst hd
        have hcomment : some '#' ≠ some c := by rcases hc with rfl | rfl <;> decide
        have hnext := (hes.dropWhile isBlank_parenthesis).sameNext
        simp [hhead hcomment, hhead' hcomment, hnext.eq_some_iff hparenthesis]
      · split <;> simp_all

theorem carries_classRange : Carries Eq classRange classRange := by
  refine carries_classAtom.andThen fun low => carries_skipBlanks.andThen fun _ => ?_
  refine carries_rest.bind fun cs cs' h => carries_extended.andThen fun value => ?_
  -- What stands behind the hyphen is not the same at the end, but the decision that it makes is.
  have hcond : (cs'.head? ≠ some '-' || behindHyphen value cs'.tail = some ']' ||
      behindHyphen value cs'.tail = some '-') = (cs.head? ≠ some '-' ||
      behindHyphen value cs.tail = some ']' || behindHyphen value cs.tail = some '-') := by
    cases cs with
    | nil => rcases h.nil_left with rfl | rfl <;> rfl
    | cons c cs =>
      obtain ⟨ds, rfl, hds⟩ := h.cons_left
      change (some c ≠ some '-' || behindHyphen value ds = some ']' ||
        behindHyphen value ds = some '-') = (some c ≠ some '-' ||
        behindHyphen value cs = some ']' || behindHyphen value cs = some '-')
      simp only [behindHyphen_eq_some_iff value (.inl rfl) hds,
        behindHyphen_eq_some_iff value (.inr rfl) hds]
  simp only [hcond]
  refine .ite (carries_memberOf low) (carries_step.andThen fun _ => ?_)
  refine carries_classAtom.andThen fun high => ?_
  split
  · exact (carries_require _).andThen fun _ => .pure rfl
  · exact .refuse _

theorem carries_classHead {n n' : Nat} (h : n ≤ n') :
    Carries Eq (classHead n) (classHead n') := by
  induction n generalizing n' with
  | zero => exact .refuse _
  | succ n ih =>
    obtain ⟨n', rfl⟩ : ∃ k, n' = k + 1 := ⟨n' - 1, by omega⟩
    refine carries_skipBlanks.andThen fun _ => (carries_accept (by decide)).andThen fun _ => ?_
    exact .ite ((ih (Nat.le_of_succ_le_succ h)).andThen fun _ => .pure rfl) (.pure rfl)

/-- Classes, by the bound: one behind its opening bracket, and its members. -/
theorem carries_class {n n' : Nat} (h : n ≤ n') :
    (∀ before items, Carries Eq (classItems n before items) (classItems n' before items)) ∧
      Carries Eq (bracketed n) (bracketed n') := by
  induction n generalizing n' with
  | zero => exact ⟨fun _ _ => .refuse _, .refuse _⟩
  | succ n ih =>
    obtain ⟨n', rfl⟩ : ∃ k, n' = k + 1 := ⟨n' - 1, by omega⟩
    obtain ⟨hitems, hbracketed⟩ := ih (Nat.le_of_succ_le_succ h)
    constructor
    · intro before items
      refine carries_skipBlanks.andThen fun _ => ?_
      refine (carries_accept (by decide)).andThen fun _ => .ite (.pure rfl) ?_
      refine (carries_accept (by decide)).andThen fun _ => .ite (hitems _ _) ?_
      refine (carries_accept (by decide)).andThen fun _ => .ite (hitems _ _) ?_
      refine (carries_accept (by decide)).andThen fun _ => .ite (hitems _ _) ?_
      refine carries_peek?.bind fun next next' hnext => ?_
      simp only [← hnext.eq_some_iff (show '[' ≠ ')' by decide)]
      refine .ite (carries_asciiClass?.andThen fun found => ?_)
        (carries_classRange.andThen fun _ => hitems _ _)
      cases found with
      | some item => exact hitems _ _
      | none =>
        exact carries_next.andThen fun _ => hbracketed.andThen fun _ => hitems _ _
    · refine carries_skipBlanks.andThen fun _ => (carries_accept (by decide)).andThen fun _ => ?_
      refine (carries_classHead (Nat.le_of_succ_le_succ h)).andThen fun hyphens => ?_
      refine .ite ((carries_accept (by decide)).andThen fun _ => .ite ?_ ?_) ?_
      all_goals
        exact (Carries.pure rfl).andThen fun _ => (hitems _ _).andThen fun _ => .pure rfl

theorem carries_decimalFrom {n n' : Nat} (h : n ≤ n') (value : Nat) :
    Carries Eq (decimalFrom n value) (decimalFrom n' value) := by
  induction n generalizing n' value with
  | zero => exact .refuse _
  | succ n ih =>
    obtain ⟨n', rfl⟩ : ∃ k, n' = k + 1 := ⟨n' - 1, by omega⟩
    refine carries_peek?.bind fun next next' hnext => ?_
    rcases hnext with rfl | ⟨rfl, rfl⟩
    · cases next' with
      | none => exact .pure rfl
      | some c =>
        exact .ite (carries_step.andThen fun _ => ih (Nat.le_of_succ_le_succ h) _) (.pure rfl)
    · exact .pure rfl

theorem carries_number : Carries Eq number number := by
  refine carries_rest.bind fun _ _ h =>
    (carries_setRest (h.dropWhile isBlank_parenthesis)).andThen fun _ => ?_
  refine carries_rest.bind fun cs cs' h => ?_
  rw [h.sameNext.any_eq (p := Char.isDigit) rfl]
  refine (carries_require _).andThen fun _ => carries_rest.bind fun _ _ h => ?_
  refine (carries_decimalFrom (Nat.succ_le_succ h.length_le) 0).andThen fun _ => ?_
  refine carries_rest.bind fun _ _ h =>
    (carries_setRest (h.dropWhile isBlank_parenthesis)).andThen fun _ => ?_
  exact carries_skipBlanks.andThen fun _ => (carries_require _).andThen fun _ => .pure rfl

theorem carries_counts : Carries Eq counts counts := by
  refine carries_skipBlanks.andThen fun _ => carries_number.andThen fun least => ?_
  have hbehind (most : Option Nat) : Carries Eq
      (do expect '\x7d'; skipBlanks; require (most.all (least ≤ ·)); return (least, most))
      (do expect '\x7d'; skipBlanks; require (most.all (least ≤ ·)); return (least, most)) :=
    (carries_expect _).andThen fun _ => carries_skipBlanks.andThen fun _ =>
      (carries_require _).andThen fun _ => .pure rfl
  refine (carries_accept (by decide)).andThen fun _ =>
    .ite ?_ ((Carries.pure rfl).andThen hbehind)
  refine carries_skipBlanks.andThen fun _ => carries_peek?.bind fun next next' hnext => ?_
  simp only [← hnext.eq_some_iff (show '\x7d' ≠ ')' by decide)]
  exact .ite ((Carries.pure rfl).andThen hbehind)
    (carries_number.andThen fun _ => (Carries.pure rfl).andThen hbehind)

theorem carries_upTo {stop : Char} (hstop : stop ≠ ')') :
    Carries Eq (upTo stop) (upTo stop) := by
  intro r r' hr
  refine carriesAt_rest (carriesAt_rest ?_)
  have hparenthesis : decide (')' ≠ stop) = true := decide_eq_true hstop.symm
  rcases hr.rest.takeWhile_eq (p := (· ≠ stop)) hparenthesis with ⟨htext, hclose⟩ | ⟨hnil, -⟩
  · rw [htext]
    exact (carries_setRest hclose).andThen (fun _ =>
      (carries_expect stop).andThen fun _ => .pure rfl) r r' hr
  · intro a t hrun
    rw [hnil] at hrun
    cases hrun

theorem carries_openGroup : Carries Eq openGroup openGroup := by
  intro r r' hr a t hrun
  cases hrun
  refine ⟨_, _, rfl, ?_, hr.rest, hr.extended, ?_, hr.names⟩ <;> rw [hr.groups]

theorem carries_openNamedGroup : Carries Eq openNamedGroup openNamedGroup := by
  refine carries_openGroup.andThen fun index => (carries_upTo (by decide)).andThen fun name => ?_
  cases name with
  | nil => exact .refuse _
  | cons c cs =>
    refine (carries_require _).andThen fun _ => carries_get.bind fun s s' hs => ?_
    rw [hs.names]
    refine (carries_require _).andThen fun _ => ?_
    intro r r' hr a t hrun
    cases hrun
    exact ⟨_, _, rfl, rfl, hr.rest, hr.extended, hr.groups,
      congrArg ((c :: cs) :: ·) hr.names⟩

/-- Flags end at a character before the parenthesis that is put behind. -/
theorem flagsFrom_closed {value : Bool} {seen cs back cs' : List Char} {change : FlagChange}
    (h : Closes cs cs') (hflags : flagsFrom value seen cs = some (change, back)) :
    ∃ d ds ds', back = d :: ds ∧ flagsFrom value seen cs' = some (change, d :: ds') ∧
      Closes ds ds' := by
  induction cs generalizing value seen cs' change with
  | nil => cases hflags
  | cons c cs ih =>
    obtain ⟨ds, rfl, hds⟩ := h.cons_left
    unfold flagsFrom at hflags ⊢
    split at hflags
    · next hend =>
      rw [if_pos hend]
      split at hflags
      · cases hflags
      · next hseen =>
        cases hflags
        exact ⟨c, cs, ds, rfl, if_neg hseen, hds⟩
    · next hend =>
      rw [if_neg hend]
      split at hflags
      · cases hflags
      · next hseen =>
        rw [if_neg hseen]
        split at hflags
        · next hhyphen =>
          rw [if_pos hhyphen]
          exact ih hds hflags
        · next hhyphen =>
          rw [if_neg hhyphen]
          obtain ⟨flag, hflag, hflags⟩ := Option.bind_eq_some_iff.mp hflags
          obtain ⟨⟨later, after⟩, hlater, hflags⟩ := Option.bind_eq_some_iff.mp hflags
          cases hflags
          obtain ⟨d, es, es', hback, hlater', hes⟩ := ih hds hlater
          refine ⟨d, es, es', hback, ?_, hes⟩
          rw [hflag, Option.bind_eq_bind, Option.bind_some, hlater']
          rfl

theorem carries_opening : Carries Eq opening opening := by
  refine carries_skipBlanks.andThen fun _ => carries_rest.bind fun cs cs' h => ?_
  simp only [List.any_cons, List.any_nil]
  rw [h.isPrefixOf_eq (by decide), h.isPrefixOf_eq (by decide), h.isPrefixOf_eq (by decide),
    h.isPrefixOf_eq (by decide)]
  refine .ite (.refuse _) ?_
  refine (carries_accept (by decide)).andThen fun _ =>
    .ite (carries_openNamedGroup.andThen fun _ => .pure rfl) ?_
  refine (carries_accept (by decide)).andThen fun _ =>
    .ite (carries_openNamedGroup.andThen fun _ => .pure rfl) ?_
  refine (carries_accept (by decide)).andThen fun _ =>
    .ite ?_ (carries_openGroup.andThen fun _ => .pure rfl)
  refine carries_rest.bind fun cs cs' h => ?_
  cases hflags : flagsFrom true [] cs with
  | none => exact .refuse _
  | some flags =>
    obtain ⟨change, back⟩ := flags
    obtain ⟨d, ds, ds', rfl, hflags', hds⟩ := flagsFrom_closed h hflags
    rw [hflags']
    refine (carries_setRest hds).andThen fun _ => .ite (.pure rfl) ?_
    exact (carries_require _).andThen fun _ => .pure rfl

theorem carries_changeExtended (change : FlagChange) :
    Carries Eq (changeExtended change) (changeExtended change) := by
  unfold changeExtended
  split
  · exact carries_setExtended _
  · exact .pure rfl

theorem carries_element {n n' : Nat} (h : n ≤ n') : Carries Eq (element n) (element n') := by
  refine carries_next.andThen fun c => ?_
  split
  · exact .pure rfl
  · exact .pure rfl
  · exact .pure rfl
  · exact (carries_class h).2.andThen fun _ => .pure rfl
  · exact carries_escape
  · exact .pure rfl

theorem carries_repetition (least : Nat) (most : Option Nat) (parts : List Phrase) :
    Carries Eq (repetition least most parts) (repetition least most parts) := by
  have hlast : Carries Eq (lastPart parts) (lastPart parts) := by
    unfold lastPart
    split
    · exact .refuse _
    · exact .refuse _
    · exact .pure rfl
  exact hlast.andThen fun _ => (carries_accept (by decide)).andThen fun _ => .pure rfl

/-- Branches and their parts, by the bound. Where the text ends, and where the parenthesis stands,
both end. -/
theorem carries_alternatives {n n' : Nat} (h : n ≤ n') :
    Carries Eq (alternatives n) (alternatives n') ∧
      ∀ parts, Carries Eq (sequence n parts) (sequence n' parts) := by
  induction n generalizing n' with
  | zero => exact ⟨.refuse _, fun _ => .refuse _⟩
  | succ n ih =>
    obtain ⟨n', rfl⟩ : ∃ k, n' = k + 1 := ⟨n' - 1, by omega⟩
    obtain ⟨halternatives, hsequence⟩ := ih (Nat.le_of_succ_le_succ h)
    constructor
    · refine (hsequence []).andThen fun first => (carries_accept (by decide)).andThen fun _ => ?_
      exact .ite (halternatives.andThen fun _ => .pure rfl) (.pure rfl)
    · intro parts
      refine carries_skipBlanks.andThen fun _ => carries_peek?.bind fun next next' hnext => ?_
      have hrepeated (least : Nat) (most : Option Nat) : Carries Eq
          (do sequence n (← repetition least most parts))
          (do sequence n' (← repetition least most parts)) :=
        (carries_repetition least most parts).andThen fun _ => hsequence _
      rcases hnext with rfl | ⟨rfl, rfl⟩
      · split
        · exact .pure rfl
        · exact .pure rfl
        · exact .pure rfl
        · refine carries_next.andThen fun _ => carries_extended.andThen fun saved => ?_
          refine carries_opening.andThen fun kind => ?_
          match kind with
          | .flagsOnly change =>
            exact (carries_changeExtended change).andThen fun _ => hsequence _
          | .scoped change =>
            refine (carries_changeExtended change).andThen fun _ => ?_
            exact halternatives.andThen fun _ => (carries_setExtended saved).andThen fun _ =>
              (carries_expect _).andThen fun _ => hsequence _
          | .numbered index =>
            exact halternatives.andThen fun _ => (carries_setExtended saved).andThen fun _ =>
              (carries_expect _).andThen fun _ => hsequence _
        · exact carries_next.andThen fun _ => hrepeated _ _
        · exact carries_next.andThen fun _ => hrepeated _ _
        · exact carries_next.andThen fun _ => hrepeated _ _
        · exact carries_next.andThen fun _ => carries_counts.andThen fun _ => hrepeated _ _
        · exact (carries_element (Nat.le_of_succ_le_succ h)).andThen fun _ => hsequence _
      · exact .pure rfl

/-- How the pasted text begins: the anchor stands apart, and the group around what follows sets no
flags and keeps no text. -/
theorem sequence_pasted (n : Nat) (text : List Char) :
    sequence (n + 2) [] ⟨'^' :: '(' :: '?' :: ':' :: text, false, 0, []⟩ =
      (do
        let body ← alternatives n
        setExtended false
        expect ')'
        sequence n [.scope [] body, .lineStart]) ⟨text, false, 0, []⟩ := rfl

/-- Behind the parenthesis that closes the group, there is nothing more to read. -/
theorem sequence_end (n groups : Nat) (names : List (List Char)) (parts : List Phrase) :
    sequence (n + 1) parts ⟨[], false, groups, names⟩ =
      some (Phrase.ofParts parts.reverse, ⟨[], false, groups, names⟩) := rfl

end Reader

theorem Phrase.read?_eq_some {flags : Flags} {cs : List Char} {phrase : Phrase}
    (h : read? flags cs = some phrase) :
    ∃ r, Reader.alternatives (4 * cs.length + 4) ⟨cs, flags.extended, 0, []⟩ = some (phrase, r) ∧
      r.rest = [] := by
  obtain ⟨⟨found, r⟩, hrun, hend⟩ := Option.bind_eq_some_iff.mp h
  simp only [Option.ite_none_right_eq_some, Bool.and_eq_true, List.isEmpty_iff,
    Option.some.injEq] at hend
  obtain ⟨⟨hrest, -⟩, rfl⟩ := hend
  exact ⟨r, hrun, hrest⟩

/-- A text that is a pattern by itself stays inside the group that it is set into. -/
theorem Phrase.read?_pasted {cs : List Char} {phrase pasted : Phrase}
    (h : read? {} cs = some phrase)
    (hpasted : read? {} ('^' :: '(' :: '?' :: ':' :: (cs ++ [')'])) = some pasted) :
    pasted = .seq .lineStart (.scope [] phrase) := by
  obtain ⟨r, hrun, hrest⟩ := read?_eq_some h
  obtain ⟨r', hrun', -⟩ := read?_eq_some hpasted
  have hlength : 4 * ('^' :: '(' :: '?' :: ':' :: (cs ++ [')'])).length + 4 =
      4 * cs.length + 20 + 1 + 2 + 1 := by
    simp only [List.length_cons, List.length_append, List.length_nil]
    omega
  rw [hlength] at hrun'
  obtain ⟨first, s, hsequence, hfirst⟩ := Reader.bind_eq_some_iff.mp hrun'
  rw [Reader.sequence_pasted] at hsequence
  obtain ⟨body, s', hbody, hclose⟩ := Reader.bind_eq_some_iff.mp hsequence
  have hcarries := (Reader.carries_alternatives
    (show 4 * cs.length + 4 ≤ 4 * cs.length + 20 + 1 by omega)).1
  obtain ⟨_, t, ht, rfl, hclosed⟩ := hcarries ⟨cs, false, 0, []⟩ ⟨cs ++ [')'], false, 0, []⟩
    ⟨.behind cs, rfl, rfl, rfl⟩ _ _ hrun
  rw [hbody, Option.some.injEq, Prod.mk.injEq] at ht
  obtain ⟨rfl, rfl⟩ := ht
  obtain ⟨text, extended, groups, names⟩ := s'
  have htext := hclosed.rest
  rw [hrest] at htext
  rcases htext.nil_left with rfl | rfl
  · change Reader.sequence _ _ ⟨[], false, groups, names⟩ = _ at hclose
    rw [Reader.sequence_end] at hclose
    cases hclose
    cases hfirst
    rfl
  · cases hclose

end Descent.Regex
