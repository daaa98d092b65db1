import Descent.Script

/-!
Laws of scripts. They form a lawful monad, and a script that is put together of two runs as the
two do one after the other.
-/
namespace Descent.Script

variable {ρ : Type} {Y : ρ → Type} {α β γ : Type}

@[simp] theorem pure_eq_done (value : α) : (pure value : Script Y α) = done value := rfl

@[simp] theorem bind_eq (s : Script Y α) (f : α → Script Y β) : (s >>= f) = s.bind f := rfl

theorem bind_done (s : Script Y α) : s.bind done = s := by
  induction s with
  | done | raise => rfl
  | call _ _ _ _ ih | ask _ _ ih | takeLog _ ih =>
    simp only [bind]
    congr 1
    funext answer
    exact ih answer
  | advance _ _ ih | note _ _ ih | noteAttempt _ _ ih =>
    simp only [bind]
    rw [ih]

theorem bind_bind (s : Script Y α) (f : α → Script Y β) (g : β → Script Y γ) :
    (s.bind f).bind g = s.bind fun value => (f value).bind g := by
  induction s with
  | done | raise => rfl
  | call _ _ _ _ ih | ask _ _ ih | takeLog _ ih =>
    simp only [bind]
    congr 1
    funext answer
    exact ih answer
  | advance _ _ ih | note _ _ ih | noteAttempt _ _ ih =>
    simp only [bind]
    rw [ih]

instance : LawfulMonad (Script Y) :=
  LawfulMonad.mk' (Script Y) bind_done (fun _ _ => rfl) bind_bind

variable (kind : Callee ρ → String) (body : (c : Callee ρ) → Scanner → Outcome (c.Yield Y))

/-- A script put together of two runs as the two in turn. -/
theorem run_bind (s : Script Y α) (f : α → Script Y β) (t : Scanner) :
    (s.bind f).run kind body t =
      (s.run kind body t).andThen fun value u => (f value).run kind body u := by
  induction s generalizing t with
  | done | raise => rfl
  | call mode callee args next ih =>
    simp only [bind, run]
    cases t.call mode (kind callee) (body callee) args with
    | finished result u => exact ih _ u
    | violated => rfl
    | exhausted => rfl
  | ask _ _ ih | takeLog _ ih =>
    simp only [bind, run]
    exact ih _ _
  | advance count next ih =>
    simp only [bind, run]
    cases t.advance count with
    | ok u => exact ih u
    | error => rfl
  | note _ _ ih | noteAttempt _ _ ih =>
    simp only [bind, run]
    exact ih _

end Descent.Script
