import Mathlib.Data.List.Find
import Mathlib.Data.List.Infix

/-! Functions of Go's package `strings`, on the bytes of a string. White space is Unicode's,
so a space may take up to three bytes. -/
namespace HmsClient.GoStrings

/-- The UTF-8 encodings of the runes that `unicode.IsSpace` accepts. -/
def spaces : List (List UInt8) :=
  [[9], [10], [11], [12], [13], [32], [0xC2, 0x85], [0xC2, 0xA0], [0xE1, 0x9A, 0x80],
    [0xE2, 0x80, 0x80], [0xE2, 0x80, 0x81], [0xE2, 0x80, 0x82], [0xE2, 0x80, 0x83],
    [0xE2, 0x80, 0x84], [0xE2, 0x80, 0x85], [0xE2, 0x80, 0x86], [0xE2, 0x80, 0x87],
    [0xE2, 0x80, 0x88], [0xE2, 0x80, 0x89], [0xE2, 0x80, 0x8A], [0xE2, 0x80, 0xA8],
    [0xE2, 0x80, 0xA9], [0xE2, 0x80, 0xAF], [0xE2, 0x81, 0x9F], [0xE3, 0x80, 0x80]]

/-- Drops encodings of `runes` from the front, `fuel` times at most. -/
def trimFront (runes : List (List UInt8)) : Nat → List UInt8 → List UInt8
  | 0, s => s
  | fuel + 1, s =>
    match runes.find? (·.isPrefixOf s) with
    | some rune => trimFront runes fuel (s.drop rune.length)
    | none => s

/-- `strings.TrimSpace`. -/
def trimSpace (s : List UInt8) : List UInt8 :=
  let s := trimFront spaces s.length s
  (trimFront (spaces.map List.reverse) s.length s.reverse).reverse

/-! ## What trimming leaves -/

/-- The end of `trimSpace`. -/
def trimEnd (s : List UInt8) : List UInt8 :=
  (trimFront (spaces.map List.reverse) s.length s.reverse).reverse

section Trim
variable {runes : List (List UInt8)} {c : UInt8}

private theorem find?_nil (nonempty : [] ∉ runes) : runes.find? (·.isPrefixOf []) = none := by
  rw [List.find?_eq_none]
  intro rune inRunes starts
  rw [List.isPrefixOf_iff_prefix, List.prefix_nil] at starts
  exact nonempty (starts ▸ inRunes)

private theorem trimFront_nil (nonempty : [] ∉ runes) (fuel : Nat) : trimFront runes fuel [] = [] := by
  cases fuel with
  | zero => rfl
  | succ fuel => rw [trimFront, find?_nil nonempty]

/-- No encoding reaches over a byte that none has. -/
private theorem isPrefixOf_append {rune : List UInt8} (foreign : c ∉ rune) (x s : List UInt8) :
    rune.isPrefixOf (x ++ c :: s) = rune.isPrefixOf x := by
  rw [Bool.eq_iff_iff, List.isPrefixOf_iff_prefix, List.isPrefixOf_iff_prefix]
  refine ⟨fun starts => ?_, fun starts => starts.trans (List.prefix_append x _)⟩
  rcases List.prefix_or_prefix_of_prefix starts (List.prefix_append x (c :: s)) with inside | beyond
  · exact inside
  · obtain ⟨more, rfl⟩ := beyond
    rw [List.prefix_append_right_inj] at starts
    cases more with
    | nil => rw [List.append_nil]
    | cons b more =>
      rw [List.cons_prefix_cons] at starts
      refine absurd ?_ foreign
      rw [← starts.1]
      simp

private theorem find?_append (foreign : ∀ rune ∈ runes, c ∉ rune) (x s : List UInt8) :
    runes.find? (·.isPrefixOf (x ++ c :: s)) = runes.find? (·.isPrefixOf x) :=
  List.find?_congr fun rune inRunes => isPrefixOf_append (foreign rune inRunes) x s

private theorem drop_append (starts : rune <+: x) :
    (x ++ s).drop rune.length = x.drop rune.length ++ s :=
  List.drop_append_of_le_length starts.length_le

private theorem starts_of_find? (found : runes.find? (·.isPrefixOf x) = some rune) :
    rune <+: x := by
  have holds := List.find?_some found
  exact List.isPrefixOf_iff_prefix.mp holds

theorem trimFront_append (foreign : ∀ rune ∈ runes, c ∉ rune) (fuel : Nat) (x s : List UInt8) :
    trimFront runes fuel (x ++ c :: s) = trimFront runes fuel x ++ c :: s := by
  induction fuel generalizing x with
  | zero => rfl
  | succ fuel ih =>
    rw [trimFront, trimFront, find?_append foreign]
    split
    · next rune found => rw [drop_append (starts_of_find? found), ih]
    · rfl

private theorem trimFront_fuel (nonempty : [] ∉ runes) (enough : x.length ≤ fuel)
    (enough' : x.length ≤ fuel') : trimFront runes fuel x = trimFront runes fuel' x := by
  induction fuel generalizing fuel' x with
  | zero =>
    rw [List.eq_nil_of_length_eq_zero (Nat.le_zero.mp enough), trimFront_nil nonempty,
      trimFront_nil nonempty]
  | succ fuel ih =>
    cases fuel' with
    | zero =>
      rw [List.eq_nil_of_length_eq_zero (Nat.le_zero.mp enough'), trimFront_nil nonempty,
        trimFront_nil nonempty]
    | succ fuel' =>
      rw [trimFront, trimFront]
      split
      · next rune found =>
        have some : rune ≠ [] := fun empty => nonempty (empty ▸ List.mem_of_find?_eq_some found)
        have positive := List.length_pos_of_ne_nil some
        have shorter := List.length_drop (i := rune.length) (l := x)
        exact ih (by omega) (by omega)
      · rfl

end Trim

private theorem spaces_prefix_free : ∀ rune ∈ spaces, ∀ other ∈ spaces,
    other <+: rune ∨ rune <+: other → other = rune := by decide +kernel

private theorem find?_space (space : rune ∈ spaces) (s : List UInt8) :
    spaces.find? (·.isPrefixOf (rune ++ s)) = some rune := by
  cases found : spaces.find? (·.isPrefixOf (rune ++ s)) with
  | none =>
    have none := List.find?_eq_none.mp found rune space
    exact absurd (List.isPrefixOf_iff_prefix.mpr (List.prefix_append rune s)) none
  | some other =>
    have comparable :=
      List.prefix_or_prefix_of_prefix (starts_of_find? found) (List.prefix_append rune s)
    rw [spaces_prefix_free rune space other (List.mem_of_find?_eq_some found) comparable]

private theorem trimFront_ends (runes : List (List UInt8)) (fuel : Nat) (s : List UInt8) :
    trimFront runes fuel s <:+ s := by
  induction fuel generalizing s with
  | zero => exact List.suffix_rfl
  | succ fuel ih =>
    rw [trimFront]
    split
    · exact (ih _).trans (List.drop_suffix _ s)
    · exact List.suffix_rfl

theorem trimEnd_starts (s : List UInt8) : trimEnd s <+: s := by
  rw [← List.reverse_suffix, trimEnd, List.reverse_reverse]
  exact trimFront_ends _ _ _

/-! ## Trimmed text -/

private theorem trimFront_trimmed (trimmed : trimSpace s = s) :
    trimFront spaces s.length s = s := by
  have ends := trimFront_ends spaces s.length s
  have starts : trimSpace s <+: trimFront spaces s.length s := trimEnd_starts _
  rw [trimmed] at starts
  exact ends.eq_of_length (Nat.le_antisymm ends.length_le starts.length_le)

/-- A trimmed text starts with no space. -/
theorem not_space_of_trimmed {s rune : List UInt8} (trimmed : trimSpace s = s)
    (space : rune ∈ spaces) : ¬ rune <+: s := by
  rintro ⟨rest, rfl⟩
  have some : rune ≠ [] := fun empty => absurd (empty ▸ space) (by decide)
  have positive := List.length_pos_of_ne_nil some
  have kept := congrArg List.length (trimFront_trimmed trimmed)
  obtain ⟨fuel, more⟩ : ∃ fuel, (rune ++ rest).length = fuel + 1 :=
    ⟨(rune ++ rest).length - 1, by rw [List.length_append]; omega⟩
  rw [more, trimFront, find?_space space] at kept
  simp only [List.drop_left] at kept
  have shorter := (trimFront_ends spaces fuel rest).length_le
  rw [List.length_append] at more
  omega

/-- A text that starts trimmed and ends in a byte that no space has is trimmed. -/
theorem trimSpace_of_trimmed {s : List UInt8} {c d : UInt8} (trimmed : trimSpace s = s)
    (foreign : ∀ rune ∈ spaces, c ∉ rune) (foreign' : ∀ rune ∈ spaces, d ∉ rune)
    (x : List UInt8) : trimSpace (s ++ c :: (x ++ [d])) = s ++ c :: (x ++ [d]) := by
  have enough : s.length ≤ (s ++ c :: (x ++ [d])).length := by simp
  have front : trimFront spaces (s ++ c :: (x ++ [d])).length (s ++ c :: (x ++ [d])) =
      s ++ c :: (x ++ [d]) := by
    rw [trimFront_append foreign, trimFront_fuel (by decide) enough (Nat.le_refl _),
      trimFront_trimmed trimmed]
  have foreign'' : ∀ rune ∈ spaces.map List.reverse, d ∉ rune := by
    intro rune inRunes
    obtain ⟨rune, space, rfl⟩ := List.mem_map.mp inRunes
    simpa using foreign' rune space
  have reversed : (s ++ c :: (x ++ [d])).reverse = [] ++ d :: (s ++ c :: x).reverse := by simp
  rw [trimSpace, front]
  simp only [reversed]
  rw [trimFront_append foreign'', trimFront_nil (by decide)]
  simp

end HmsClient.GoStrings
