import Mathlib.Data.List.Nodup
import Mathlib.Data.List.Forall2

/-! A cache that hands out the value made for the first input of each key. Slots
number the values in the order they were made, so that equal slots mean the very
same value. A whole sequence of answers is judged against the final table: each
answer points at the entry of its own key. -/
namespace HmsClient.Interner
variable {α β κ σ : Type}

/-- Pass a list through a stateful function, first to last. -/
def thread (f : α → σ → β × σ) : List α → σ → List β × σ
  | [], s => ([], s)
  | a :: as, s => ((f a s).1 :: (thread f as (f a s).2).1, (thread f as (f a s).2).2)

theorem thread_append (f : α → σ → β × σ) (as bs : List α) (s : σ) :
    thread f (as ++ bs) s =
      ((thread f as s).1 ++ (thread f bs (thread f as s).2).1,
        (thread f bs (thread f as s).2).2) := by
  induction as generalizing s with
  | nil => rfl
  | cons a as ih => simp only [List.cons_append, thread, ih]

/-- How a list is cut into chunks does not matter. -/
theorem thread_flatten (f : α → σ → β × σ) (chunks : List (List α)) (s : σ) :
    (thread (thread f) chunks s).1.flatten = (thread f chunks.flatten s).1 := by
  induction chunks generalizing s with
  | nil => rfl
  | cons chunk chunks ih =>
    rw [List.flatten_cons, thread_append, ← ih]
    rfl

/-- The values made so far, in order, with their keys. -/
abbrev Entries (κ β : Type) := List (κ × β)

/-- The slot of a key. -/
def find [DecidableEq κ] (k : κ) (table : Entries κ β) : Option (Nat × β) :=
  match table with
  | [] => none
  | (k', b) :: rest => if k' = k then some (0, b) else (find k rest).map fun (n, b) => (n + 1, b)

/-- The value cached under the key of `a`, made now if there is none. -/
def intern [DecidableEq κ] (key : α → κ) (make : α → β) (a : α) (table : Entries κ β) :
    (Nat × β) × Entries κ β :=
  match find (key a) table with
  | some found => (found, table)
  | none => ((table.length, make a), table ++ [(key a, make a)])

/-- The table has one entry for each key seen, made from an input with that key. -/
structure Tracks (key : α → κ) (make : α → β) (seen : List α) (table : Entries κ β) : Prop where
  distinct : (table.map Prod.fst).Nodup
  made : ∀ entry ∈ table, ∃ a ∈ seen, entry = (key a, make a)

theorem tracks_nil (key : α → κ) (make : α → β) : Tracks key make [] ([] : Entries κ β) :=
  ⟨List.nodup_nil, by simp⟩

variable {key : α → κ} {make : α → β}

/-- In a table with distinct keys, two entries of one key are the same entry. -/
theorem Tracks.same_slot {seen : List α} {table : Entries κ β} (tracks : Tracks key make seen table)
    {k : κ} {m n : Nat} {b c : β} (first : table[m]? = some (k, b))
    (second : table[n]? = some (k, c)) : b = c := by
  have atM : (table.map Prod.fst)[m]? = some k := by rw [List.getElem?_map, first]; rfl
  have atN : (table.map Prod.fst)[n]? = some k := by rw [List.getElem?_map, second]; rfl
  have inside : m < (table.map Prod.fst).length := (List.getElem?_eq_some_iff.mp atM).1
  have same : m = n := (List.getElem?_inj inside tracks.distinct).mp (atM.trans atN.symm)
  subst same
  rw [first] at second
  cases second
  rfl

variable [DecidableEq κ]

theorem find_some {k : κ} {table : Entries κ β} {n : Nat} {b : β} (found : find k table = some (n, b)) :
    table[n]? = some (k, b) := by
  induction table generalizing n with
  | nil => cases found
  | cons entry rest ih =>
    obtain ⟨k', b'⟩ := entry
    simp only [find] at found
    split at found
    · next same =>
      cases found
      rw [same]
      rfl
    · obtain ⟨⟨m, c⟩, foundRest, here⟩ := Option.map_eq_some_iff.mp found
      cases here
      exact ih foundRest

theorem find_none {k : κ} {table : Entries κ β} (missing : find k table = none) :
    k ∉ table.map Prod.fst := by
  induction table with
  | nil => simp
  | cons entry rest ih =>
    obtain ⟨k', b⟩ := entry
    simp only [find] at missing
    split at missing
    · cases missing
    · next other =>
      rw [Option.map_eq_none_iff] at missing
      rw [List.map_cons, List.mem_cons]
      rintro (rfl | inRest)
      · exact other rfl
      · exact ih missing inRest

/-- An answer points at the entry of its key, the table only grows, and it goes on
tracking its inputs. -/
theorem intern_spec {seen : List α} {table : Entries κ β} (tracks : Tracks key make seen table)
    (a : α) :
    let out := intern key make a table
    out.2[out.1.1]? = some (key a, out.1.2) ∧ table <+: out.2 ∧
      Tracks key make (seen ++ [a]) out.2 := by
  have weaken : ∀ entry ∈ table, ∃ b ∈ seen ++ [a], entry = (key b, make b) := fun entry member =>
    have ⟨b, inSeen, eq⟩ := tracks.made entry member
    ⟨b, List.mem_append_left _ inSeen, eq⟩
  cases found : find (key a) table with
  | some answer =>
    simp only [intern, found]
    exact ⟨find_some found, List.prefix_rfl, tracks.distinct, weaken⟩
  | none =>
    simp only [intern, found]
    refine ⟨by simp, List.prefix_append _ _, ?_, ?_⟩
    · rw [List.map_append, List.map_singleton, List.nodup_append]
      refine ⟨tracks.distinct, List.nodup_singleton _, ?_⟩
      rintro k inTable k' last rfl
      rw [List.mem_singleton.mp last] at inTable
      exact find_none found inTable
    · intro entry member
      rcases List.mem_append.mp member with old | new
      · exact weaken entry old
      · exact ⟨a, by simp, List.mem_singleton.mp new⟩

end HmsClient.Interner
