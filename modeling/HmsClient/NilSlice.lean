import Mathlib.Data.List.Forall2

/-! Slices that may be nil. A nil slice and an empty one hold the same items and
are different values; copying code often maps both to nil. `convert` is that
copy, and the lemmas say what survives it. -/
namespace HmsClient

/-- A slice: `none` is nil, `some []` is empty. -/
abbrev Slice (α : Type) := Option (List α)

namespace Slice
variable {α β γ : Type}

def items (s : Slice α) : List α := s.getD []

/-- Convert each item into a fresh slice, with nil for a slice without items. -/
def convert (f : α → β) (s : Slice α) : Slice β :=
  if s.items = [] then none else some (s.items.map f)

/-- The two slices have related items, nil and empty being the same. -/
def Like (R : α → β → Prop) (a : Slice α) (b : Slice β) : Prop :=
  List.Forall₂ R a.items b.items

/-- The slice with nil in place of empty. -/
def tidy (s : Slice α) : Slice α := convert id s

@[simp] theorem items_none : items (none : Slice α) = [] := rfl

@[simp] theorem items_some (xs : List α) : items (some xs) = xs := rfl

@[simp] theorem items_convert (f : α → β) (s : Slice α) :
    (convert f s).items = s.items.map f := by
  unfold convert
  split
  · next empty => simp [empty]
  · rfl

theorem convert_convert (g : β → γ) (f : α → β) (s : Slice α) :
    convert g (convert f s) = convert (g ∘ f) s := by
  change (if (convert f s).items = [] then none else some ((convert f s).items.map g)) = _
  simp only [items_convert, List.map_eq_nil_iff, List.map_map]
  rfl

theorem convert_congr {f g : α → β} (same : ∀ a, f a = g a) (s : Slice α) :
    convert f s = convert g s := by
  rw [funext same]

theorem like_convert {R : β → α → Prop} {f : α → β} (related : ∀ a, R (f a) a) (s : Slice α) :
    Like R (convert f s) s := by
  unfold Like
  rw [items_convert, List.forall₂_map_left_iff]
  exact List.forall₂_same.mpr fun a _ => related a

end Slice
end HmsClient
