import Descent.Position
import Descent.Reason

/-!
Failures of a parse. A failure names a place and a message, and may have a cause: the failure
of an attempt that was made before it. The chain of causes starts with the failure itself and
ends with its root cause.
-/
namespace Descent

structure Failure where
  location : Position
  message : String
  cause : Option Failure

namespace Failure

/-- A failure of the scanner itself, which has no cause. -/
def ofReason (location : Position) (reason : Reason) : Failure :=
  ⟨location, reason.message, none⟩

def withCause (f : Failure) (cause : Option Failure) : Failure :=
  { f with cause := cause }

/-- The failure, its cause, the cause of that, and so on. -/
def chain : Failure → List Failure
  | ⟨location, message, none⟩ => [⟨location, message, none⟩]
  | ⟨location, message, some cause⟩ => ⟨location, message, some cause⟩ :: cause.chain

def root : Failure → Failure
  | ⟨location, message, none⟩ => ⟨location, message, none⟩
  | ⟨_, _, some cause⟩ => cause.root

/-- What a failure says of itself, without its cause. -/
def headline (location : Position) (message : String) : String :=
  "at " ++ location.display ++ ": " ++ message

/-- The whole chain as one sentence. -/
def display : Failure → String
  | ⟨location, message, none⟩ => headline location message
  | ⟨location, message, some cause⟩ =>
    headline location message ++ " because " ++ cause.display

instance : ToString Failure := ⟨display⟩

def sources (f : Failure) : List String := f.chain.tail.map display

def inspect : Failure → String
  | ⟨location, message, none⟩ =>
    Text.record "Failure"
      [("location", location.inspect), ("message", Text.quoted message),
        ("cause", Text.optionForm none)]
  | ⟨location, message, some cause⟩ =>
    Text.record "Failure"
      [("location", location.inspect), ("message", Text.quoted message),
        ("cause", Text.optionForm (some cause.inspect))]

def same : Failure → Failure → Bool
  | ⟨p, m, none⟩, ⟨q, n, none⟩ => p = q && m = n
  | ⟨p, m, some f⟩, ⟨q, n, some g⟩ => p = q && m = n && f.same g
  | _, _ => false

theorem same_eq_true_iff (f g : Failure) : f.same g = true ↔ f = g := by
  fun_induction same f g with
  | case1 => simp
  | case2 p m f q n g ih => simp [ih, and_assoc]
  | case3 f g hnone hsome =>
    simp only [Bool.false_eq_true, false_iff]
    rintro rfl
    obtain ⟨p, m, _ | cause⟩ := f
    · exact hnone p m p m rfl rfl
    · exact hsome p m cause p m cause rfl rfl

instance : DecidableEq Failure := fun f g => decidable_of_iff _ (same_eq_true_iff f g)

end Failure

end Descent
