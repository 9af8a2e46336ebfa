import HmsClient.Operations

/-! How a metastore reads a database name that may carry a catalog, as the in-process
server of `hmstest` does, against how the client writes one. The client escapes nothing,
so a name or a catalog that holds the delimiters is read as something else; the theorem
says for which pairs the reading gives back what was written. -/
namespace HmsClient

/-- `strings.Cut` at a separator of one byte. -/
def stringsCut (sep : UInt8) : Text → Option (Text × Text)
  | [] => none
  | c :: rest =>
    if c = sep then some ([], rest)
    else (stringsCut sep rest).map fun (before, after) => (c :: before, after)

def splitCatDB (name : Text) : Text × Text :=
  match name with
  | [] => (defaultCatalog, name)
  | c :: rest =>
    if c = 64 then
      match stringsCut 35 rest with
      | some (cat, db) => (cat, db)
      | none => (defaultCatalog, name)
    else (defaultCatalog, name)

/-- A name of the form `@…#…`. -/
def LooksQualified (name : Text) : Prop := ∃ cat db, name = 64 :: cat ++ 35 :: db

private theorem cut_at_first {sep : UInt8} {before : Text} (absent : sep ∉ before) (after : Text) :
    stringsCut sep (before ++ sep :: after) = some (before, after) := by
  induction before with
  | nil => simp [stringsCut]
  | cons c before ih =>
    obtain ⟨other, absent⟩ := not_or.mp (mt List.mem_cons.mpr absent)
    simp [stringsCut, Ne.symm other, ih absent]

private theorem cut_of_absent {sep : UInt8} {s : Text} (absent : sep ∉ s) :
    stringsCut sep s = none := by
  induction s with
  | nil => rfl
  | cons c s ih =>
    obtain ⟨other, absent⟩ := not_or.mp (mt List.mem_cons.mpr absent)
    simp [stringsCut, Ne.symm other, ih absent]

theorem split_at_first {cat : Text} (absent : 35 ∉ cat) (db : Text) :
    splitCatDB (64 :: cat ++ 35 :: db) = (cat, db) := by
  have here := cut_at_first absent db
  simp only [List.cons_append, splitCatDB, here, if_true]

theorem split_plain {name : Text} (plain : ¬LooksQualified name) :
    splitCatDB name = (defaultCatalog, name) := by
  cases name with
  | nil => rfl
  | cons c rest =>
    by_cases at64 : c = 64
    · have absent : 35 ∉ rest := by
        intro inRest
        obtain ⟨cat, db, rfl⟩ := List.append_of_mem inRest
        exact plain ⟨cat, db, by rw [at64]; rfl⟩
      simp only [splitCatDB, cut_of_absent absent, ite_self]
    · simp only [splitCatDB, if_neg at64]

/-- A name that looks qualified is read at its first `#`. -/
private theorem split_looksQualified {name : Text} (looks : LooksQualified name) :
    ∃ cat db, name = 64 :: cat ++ 35 :: db ∧ 35 ∉ cat ∧ splitCatDB name = (cat, db) := by
  obtain ⟨cat, db, rfl⟩ := looks
  have inside : (35 : UInt8) ∈ cat ++ 35 :: db := by simp
  obtain ⟨before, after, same, absent⟩ := List.eq_append_cons_of_mem inside
  refine ⟨before, after, by rw [List.cons_append, same]; rfl, absent, ?_⟩
  rw [List.cons_append, same]
  exact split_at_first absent after

private theorem split_default_iff (name : Text) :
    splitCatDB name = (defaultCatalog, name) ↔ ¬LooksQualified name := by
  refine ⟨fun recovered looks => ?_, split_plain⟩
  obtain ⟨cat, db, shape, -, split⟩ := split_looksQualified looks
  have same : db = name := by
    rw [split] at recovered
    exact (Prod.mk.inj recovered).2
  have shorter := congrArg List.length shape
  rw [same] at shorter
  simp at shorter
  omega

private theorem split_other_iff (cat name : Text) :
    splitCatDB (64 :: cat ++ 35 :: name) = (cat, name) ↔ 35 ∉ cat := by
  refine ⟨fun recovered inCat => ?_, fun absent => split_at_first absent name⟩
  obtain ⟨before, after, same, absent⟩ := List.eq_append_cons_of_mem inCat
  have split := split_at_first absent (after ++ 35 :: name)
  have shape : 64 :: cat ++ 35 :: name = 64 :: before ++ 35 :: (after ++ 35 :: name) := by simp [same]
  rw [shape, split] at recovered
  have tooShort : before = cat := (Prod.mk.inj recovered).1
  exact absent (tooShort ▸ inCat)

/-- The server reads back the catalog and the name that the client wrote exactly when,
in the default catalog, the name does not look qualified and, in another one, the
catalog holds no `#`. A name in the default catalog is read as one of another catalog
exactly when it is that catalog's qualified name. -/
theorem qualified_name_is_read_back_iff (cat : Option Text) (name : Text) :
    (splitCatDB (qualifyDBName cat name) = (cat.getD defaultCatalog, name) ↔
      if cat.getD defaultCatalog = defaultCatalog then ¬LooksQualified name
      else 35 ∉ cat.getD defaultCatalog) ∧
    (cat.getD defaultCatalog = defaultCatalog →
      ((splitCatDB (qualifyDBName cat name)).1 ≠ defaultCatalog ↔
        ∃ other db, other ≠ defaultCatalog ∧ 35 ∉ other ∧ name = 64 :: other ++ 35 :: db)) := by
  by_cases isDefault : cat.getD defaultCatalog = defaultCatalog
  · have bare : qualifyDBName cat name = name := by
      cases cat with
      | none => rfl
      | some cat => exact if_neg (not_not.mpr isDefault)
    rw [bare, if_pos isDefault, isDefault]
    refine ⟨split_default_iff name, fun _ => ⟨fun other => ?_, ?_⟩⟩
    · by_cases looks : LooksQualified name
      · obtain ⟨cat, db, shape, absent, split⟩ := split_looksQualified looks
        rw [split] at other
        exact ⟨cat, db, other, absent, shape⟩
      · exact absurd (congrArg Prod.fst (split_plain looks)) other
    · rintro ⟨other, db, isOther, absent, rfl⟩
      rw [split_at_first absent db]
      exact isOther
  · rw [if_neg isDefault]
    refine ⟨?_, fun same => absurd same isDefault⟩
    cases cat with
    | none => exact absurd rfl isDefault
    | some cat =>
      have qualified : qualifyDBName (some cat) name = 64 :: cat ++ 35 :: name := if_pos isDefault
      rw [qualified]
      exact split_other_iff cat name

/-- The database "@x#y" in the default catalog is read as "y" in the catalog "x". -/
theorem bare_name_is_read_in_another_catalog :
    splitCatDB (qualifyDBName none [64, 120, 35, 121]) = ([120], [121]) ∧
      splitCatDB (qualifyDBName (some defaultCatalog) [64, 120, 35, 121]) ≠
        (defaultCatalog, [64, 120, 35, 121]) := by
  decide

end HmsClient
