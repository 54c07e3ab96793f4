import Mathlib.Tactic

/-!
A ledger of things with at most one owner each.

That no thing has two owners and that what is owned is marked are fields, so a ledger that
breaks either cannot be built. A thing not marked may be taken; marks may be set on things
nobody owns; what is released has neither owner nor mark.
-/

namespace Silicio.Ledger

/-- Who owns what, and what is marked. -/
structure Libro (O X : Type*) where
  owns : O → X → Prop
  marked : X → Prop
  sole : ∀ {o o' x}, owns o x → owns o' x → o = o'
  marked_of_owns : ∀ {o x}, owns o x → marked x

variable {O X : Type*}

def Libro.take (L : Libro O X) (o : O) (x : X) (hx : ¬ L.marked x) : Libro O X where
  owns o' y := L.owns o' y ∨ o' = o ∧ y = x
  marked y := L.marked y ∨ y = x
  sole := by
    rintro o₁ o₂ y (h₁ | ⟨rfl, rfl⟩) (h₂ | ⟨rfl, h₂⟩)
    · exact L.sole h₁ h₂
    · exact absurd (L.marked_of_owns h₁) (h₂ ▸ hx)
    · exact absurd (L.marked_of_owns h₂) hx
    · rfl
  marked_of_owns := by
    rintro o' y (h | ⟨-, h⟩)
    · exact Or.inl (L.marked_of_owns h)
    · exact Or.inr h

def Libro.mark (L : Libro O X) (S : Set X) : Libro O X where
  owns := L.owns
  marked y := L.marked y ∨ y ∈ S
  sole := L.sole
  marked_of_owns h := Or.inl (L.marked_of_owns h)

def Libro.release (L : Libro O X) (S : Set X) : Libro O X where
  owns o y := L.owns o y ∧ y ∉ S
  marked y := L.marked y ∧ y ∉ S
  sole h₁ h₂ := L.sole h₁.1 h₂.1
  marked_of_owns h := ⟨L.marked_of_owns h.1, h.2⟩

/-- What `S` takes from its one owner it takes from nobody else. -/
lemma Libro.release_owns (L : Libro O X) {S : Set X} {o : O} (hS : ∀ x ∈ S, L.owns o x) {o' : O}
    (hne : o' ≠ o) {y : X} : (L.release S).owns o' y ↔ L.owns o' y :=
  ⟨fun h => h.1, fun h => ⟨h, fun hy => hne (L.sole h (hS y hy))⟩⟩

end Silicio.Ledger
