import Mathlib

/-!
# Versioned values

A value that changes only together with its version, which grows: `Upto version a b` says that `b`
is what became of `a`. A reader that finds the version of an earlier reading again knows that the
value was the same at every moment between (`Upto.between`).
-/

namespace PlaybackConnector

variable {α ν : Type*} [Preorder ν] {version : α → ν} {a b c : α} {x y z : Option α}

/-- The value is the same, or its version is newer. -/
def Upto (version : α → ν) (a b : α) : Prop := version a < version b ∨ a = b

theorem Upto.refl (a : α) : Upto version a a := .inr rfl

theorem Upto.le (h : Upto version a b) : version a ≤ version b := by
  rcases h with h | rfl
  · exact h.le
  · exact le_refl _

theorem Upto.trans (h : Upto version a b) (h' : Upto version b c) : Upto version a c := by
  rcases h with h | rfl
  · exact .inl (h.trans_le h'.le)
  · exact h'

/-- Between two moments with the same version the value was the same. -/
theorem Upto.between (h : Upto version a b) (h' : Upto version b c)
    (hsame : version c = version a) : b = a := by
  rcases h with h | rfl
  · exact absurd (hsame ▸ h.trans_le h'.le) (lt_irrefl _)
  · rfl

/-- The same for a value that may be absent, and then is so for ever. -/
def UptoOption (version : α → ν) : Option α → Option α → Prop
  | none, none => True
  | some a, some b => Upto version a b
  | _, _ => False

theorem UptoOption.refl : ∀ x : Option α, UptoOption version x x
  | none => trivial
  | some a => Upto.refl a

theorem UptoOption.isSome_eq (h : UptoOption version x y) : x.isSome = y.isSome := by
  cases x with
  | none =>
    cases y with
    | none => rfl
    | some => exact h.elim
  | some =>
    cases y with
    | none => exact h.elim
    | some => rfl

theorem UptoOption.trans (h : UptoOption version x y) (h' : UptoOption version y z) :
    UptoOption version x z := by
  cases x with
  | none =>
    cases y with
    | none => exact h'
    | some => exact h.elim
  | some =>
    cases y with
    | none => exact h.elim
    | some =>
      cases z with
      | none => exact h'.elim
      | some => exact Upto.trans h h'

theorem UptoOption.between (h : UptoOption version x y) (h' : UptoOption version y z)
    (hsame : z.map version = x.map version) : y = x := by
  cases x with
  | none =>
    cases y with
    | none => rfl
    | some => exact h.elim
  | some =>
    cases y with
    | none => exact h.elim
    | some =>
      cases z with
      | none => exact h'.elim
      | some => exact congrArg some (Upto.between h h' (Option.some.inj hsame))

end PlaybackConnector
