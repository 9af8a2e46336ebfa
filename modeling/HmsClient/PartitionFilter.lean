import HmsClient.GoStrings
import HmsClient.PartitionServer

/-! The partition filters of the fake metastore of `hmstest`. A filter is a conjunction of
equality terms; the terms are collected in a map, so of the terms with one key only the
last is asked for. -/
namespace HmsClient.Hmstest
open GoStrings

/-! ## Parsing -/

/-- The class `\s` of a regular expression. -/
def isRegexpSpace (c : UInt8) : Bool := [9, 10, 12, 13, 32].contains c

/-- How long the match of `filterAndSplit`, `(?i)\s+and\s+`, at the front of `s` is. -/
def andLength (s : Text) : Option Nat :=
  let before := s.takeWhile isRegexpSpace
  match s.drop before.length with
  | a :: n :: d :: rest =>
    let after := rest.takeWhile isRegexpSpace
    if before ≠ [] ∧ (a = 97 ∨ a = 65) ∧ (n = 110 ∨ n = 78) ∧ (d = 100 ∨ d = 68) ∧ after ≠ [] then
      some (before.length + 3 + after.length)
    else none
  | _ => none

/-- The pieces between the matches. `skip` counts what is left of the last match, and
`piece` is what came after it. -/
def splitLoop : Text → Nat → Text → List Text
  | [], _, piece => [piece]
  | _ :: rest, skip + 1, piece => splitLoop rest skip piece
  | c :: rest, 0, piece =>
    match andLength (c :: rest) with
    | some n => piece :: splitLoop rest (n - 1) []
    | none => splitLoop rest 0 (piece ++ [c])

/-- `filterAndSplit.Split(filter, -1)`, of a filter without white space around it. -/
def filterAndSplit (filter : Text) : List Text := splitLoop filter 0 []

def parseFilterEqTerm (term : Text) : Option (Text × Text) :=
  let idx := term.idxOf 61
  if term.length ≤ idx then none
  else
    let key := trimSpace (term.take idx)
    let raw := trimSpace (term.drop (idx + 1))
    if key = [] ∨ raw.length < 2 ∨ raw.head? ≠ some 39 ∨ raw.getLast? ≠ some 39 then none
    else
      let inner := (raw.drop 1).dropLast
      if inner.contains 39 then none else some (key, inner)

/-- A `map[string]string` of terms. -/
abbrev TermMap := AList fun _ : Text => Text

/-- The refusal of a filter, which is shown without the white space around it. -/
def unsupportedFilter (filter : Text) : Thrown :=
  ⟨.metaException, text ("unsupported partition filter (only \"key = 'value'\" terms joined by " ++
    "\"and\" are supported): ") ++ filter⟩

/-- The loop of `parsePartitionFilter` over the pieces of `filter`. -/
def filterLoop (filter : Text) : List Text → TermMap → Except Thrown TermMap
  | [], out => .ok out
  | term :: rest, out =>
    match parseFilterEqTerm term with
    | none => .error (unsupportedFilter filter)
    | some (key, val) => filterLoop filter rest (out.insert key val)

def parsePartitionFilter (filter : Text) : Except Thrown TermMap :=
  let filter := trimSpace filter
  if filter = [] then .ok ∅ else filterLoop filter (filterAndSplit filter) ∅

/-! ## Evaluation -/

/-- The first partition key with the name counts. -/
def matchesTerm (tbl : Wire.Table) (p : Wire.Partition) (k v : Text) : Bool :=
  match tbl.partitionKeys.items.findIdx? (·.name = k) with
  | none => false
  | some idx => p.values.items[idx]? = some v

def partitionMatchesFilterTerms (tbl : Wire.Table) (p : Wire.Partition) (terms : TermMap) : Bool :=
  terms.entries.all fun term => matchesTerm tbl p term.1 term.2

def getPartitionsByFilter (v : Version) (dbName tblName filter : Text) (maxParts : Int16)
    (store : Store) : Except Thrown (List Wire.Partition) := do
  let (catName, db) ← resolveDB v dbName
  let terms ← parsePartitionFilter filter
  let key := tblKey catName db tblName
  let tbl ← store.tableAt catName db tblName
  let matched := (store.partitionsAt key).filter (partitionMatchesFilterTerms tbl · terms)
  pure (truncateParts matched maxParts)

/-! ## What a filter means -/

/-- The terms that a filter consists of, or `none` where it is not accepted. -/
def filterTerms (filter : Text) : Option (List (Text × Text)) :=
  let filter := trimSpace filter
  if filter = [] then some [] else (filterAndSplit filter).mapM parseFilterEqTerm

/-! ## A written filter -/

def writtenTerm (term : Text × Text) : Text := term.1 ++ 61 :: (39 :: term.2 ++ [39])

/-- `k1='v1' and k2='v2'`, and so on. -/
def writtenFilter (terms : List (Text × Text)) : Text :=
  [32, 97, 110, 100, 32].intercalate (terms.map writtenTerm)

/-- `filterAndSplit` matches nowhere in the text. -/
def Unsplit (s : Text) : Prop := ∀ tail ∈ s.tails, andLength tail = none

instance (s : Text) : Decidable (Unsplit s) := inferInstanceAs (Decidable (∀ _ ∈ s.tails, _))

/-- A term that can be written: the key is trimmed, and neither the key nor the value has
what ends it. -/
structure Writable (term : Text × Text) : Prop where
  named : term.1 ≠ []
  trimmed : trimSpace term.1 = term.1
  equals : 61 ∉ term.1
  quote : 39 ∉ term.2
  keyUnsplit : Unsplit term.1
  valueUnsplit : Unsplit term.2

/-- A byte that no match has. -/
private def Parts (c : UInt8) : Prop :=
  isRegexpSpace c = false ∧ c ∉ [97, 65, 110, 78, 100, 68]

private theorem takeWhile_parted (parts : Parts c) (x s : Text) :
    (x ++ c :: s).takeWhile isRegexpSpace = x.takeWhile isRegexpSpace := by
  rw [List.takeWhile_append]
  split
  · next whole => rw [List.takeWhile_cons_of_neg (by simp [parts.1]), List.append_nil,
      (List.takeWhile_prefix _).eq_of_length whole]
  · rfl

/-- No match reaches over such a byte. -/
private theorem andLength_parted (parts : Parts c) (x s : Text) :
    andLength (x ++ c :: s) = andLength x := by
  have notLetter := parts.2
  have within : (x.takeWhile isRegexpSpace).length ≤ x.length :=
    (List.takeWhile_prefix _).length_le
  unfold andLength
  simp only [takeWhile_parted parts, List.drop_append_of_le_length within]
  simp only [List.mem_cons, List.not_mem_nil, or_false, not_or] at notLetter
  generalize x.drop (x.takeWhile isRegexpSpace).length = r
  -- The three letters are all before the byte, or it is one of the three.
  match r with
  | [] => cases s with
    | nil => rfl
    | cons b s => cases s <;> simp [notLetter]
  | [a] => cases s <;> simp [notLetter]
  | [a, n] => simp [notLetter]
  | a :: n :: d :: r => simp only [List.cons_append, takeWhile_parted parts]

private theorem splitLoop_unsplit (parts : Parts c) (unsplit : Unsplit x) (s piece : Text) :
    splitLoop (x ++ c :: s) 0 piece = splitLoop s 0 (piece ++ x ++ [c]) := by
  induction x generalizing piece with
  | nil =>
    have none : andLength (c :: s) = none := andLength_parted parts [] s
    simp only [List.nil_append, splitLoop, none, List.append_nil]
  | cons b x ih =>
    have none : andLength (b :: x ++ c :: s) = none :=
      (andLength_parted parts (b :: x) s).trans (unsplit _ (by simp))
    have later : Unsplit x := fun tail inside => unsplit tail (by simp at inside ⊢; exact .inr inside)
    simp only [List.cons_append] at none ⊢
    simp only [splitLoop, none]
    rw [ih later]
    simp

private theorem splitLoop_and (notSpace : isRegexpSpace c = false) (s piece : Text) :
    splitLoop ([32, 97, 110, 100, 32] ++ c :: s) 0 piece = piece :: splitLoop (c :: s) 0 [] := by
  have five : andLength ([32, 97, 110, 100, 32] ++ c :: s) = some 5 := by
    simp [andLength, notSpace, show isRegexpSpace 32 = true by decide,
      show isRegexpSpace 97 = false by decide]
  simp only [List.cons_append, List.nil_append] at five ⊢
  simp only [splitLoop, five]

private theorem splitLoop_term (writable : Writable term) (s piece : Text) :
    splitLoop (writtenTerm term ++ s) 0 piece = splitLoop s 0 (piece ++ writtenTerm term) := by
  have parts : Parts 61 ∧ Parts 39 := ⟨⟨by decide, by decide⟩, by decide, by decide⟩
  have quote : Unsplit [] := by decide
  have text : writtenTerm term ++ s = term.1 ++ 61 :: ([] ++ 39 :: (term.2 ++ 39 :: s)) := by
    simp [writtenTerm]
  rw [text, splitLoop_unsplit parts.1 writable.keyUnsplit, splitLoop_unsplit parts.2 quote,
    splitLoop_unsplit parts.2 writable.valueUnsplit]
  simp [writtenTerm]

private theorem Writable.head (writable : Writable term) :
    ∃ c rest, term.1 = c :: rest ∧ isRegexpSpace c = false := by
  obtain ⟨c, rest, key⟩ := List.exists_cons_of_ne_nil writable.named
  refine ⟨c, rest, key, ?_⟩
  by_contra space
  have known : ∀ b : UInt8, isRegexpSpace b = true → [b] ∈ spaces := by
    intro b isSpace
    simp only [isRegexpSpace, List.contains_iff_mem, List.mem_cons, List.not_mem_nil,
      or_false] at isSpace
    rcases isSpace with rfl | rfl | rfl | rfl | rfl <;> decide
  refine not_space_of_trimmed writable.trimmed (known c (by simpa using space)) ?_
  rw [key]
  simp

private theorem written_cons (term next : Text × Text) (terms : List (Text × Text)) :
    writtenFilter (term :: next :: terms) =
      writtenTerm term ++ ([32, 97, 110, 100, 32] ++ writtenFilter (next :: terms)) := by
  simp [writtenFilter]

private theorem written_shape (term : Text × Text) (terms : List (Text × Text)) :
    ∃ x, writtenFilter (term :: terms) = term.1 ++ 61 :: (x ++ [39]) := by
  induction terms generalizing term with
  | nil => exact ⟨39 :: term.2, by simp [writtenFilter, writtenTerm]⟩
  | cons next terms ih =>
    obtain ⟨x, shape⟩ := ih next
    refine ⟨39 :: term.2 ++ 39 :: [32, 97, 110, 100, 32] ++ next.1 ++ 61 :: x, ?_⟩
    simp [written_cons, shape, writtenTerm]

/-- A written filter is split into the terms that were written. -/
private theorem splitLoop_written (terms : List (Text × Text)) (term : Text × Text)
    (writable : ∀ t ∈ term :: terms, Writable t) :
    splitLoop (writtenFilter (term :: terms)) 0 [] = (term :: terms).map writtenTerm := by
  induction terms generalizing term with
  | nil =>
    have split := splitLoop_term (writable term (by simp)) [] []
    simpa [writtenFilter, splitLoop] using split
  | cons next terms ih =>
    have rest := ih next fun t inside => writable t (.tail _ inside)
    obtain ⟨c, front, key, notSpace⟩ := (writable next (by simp)).head
    obtain ⟨x, shape⟩ := written_shape next terms
    have starts : writtenFilter (next :: terms) = c :: (front ++ 61 :: (x ++ [39])) := by
      rw [shape, key, List.cons_append]
    rw [written_cons, splitLoop_term (writable term (by simp)), List.map_cons, ← rest, starts,
      splitLoop_and notSpace, List.nil_append]

private theorem parseFilterEqTerm_written (writable : Writable term) :
    parseFilterEqTerm (writtenTerm term) = some term := by
  have place : (writtenTerm term).idxOf 61 = term.1.length := by
    rw [writtenTerm, List.idxOf_append_of_notMem writable.equals]
    simp
  have quoted : trimSpace (39 :: term.2 ++ [39]) = 39 :: term.2 ++ [39] :=
    trimSpace_of_trimmed (s := []) (by decide) (by decide) (by decide) term.2
  have key : (writtenTerm term).take term.1.length = term.1 := by simp [writtenTerm]
  have value : (writtenTerm term).drop (term.1.length + 1) = 39 :: term.2 ++ [39] := by
    rw [writtenTerm, ← List.drop_drop]
    simp
  have longer : ¬ (writtenTerm term).length ≤ term.1.length := by simp [writtenTerm]
  simp only [parseFilterEqTerm, place, longer, if_false, key, value, writable.trimmed, quoted]
  have ends : (39 :: (term.2 ++ [39])).getLast? = some 39 := by
    rw [← List.cons_append, List.getLast?_concat]
  simp [writable.named, writable.quote, ends]

private theorem mapM_written {terms : List (Text × Text)} (writable : ∀ t ∈ terms, Writable t) :
    (terms.map writtenTerm).mapM parseFilterEqTerm = some terms := by
  induction terms with
  | nil => rfl
  | cons term terms ih =>
    rw [List.map_cons, List.mapM_cons, parseFilterEqTerm_written (writable term (by simp)),
      ih fun t inside => writable t (.tail _ inside)]
    rfl

/-- The written filter has the terms it was written from. -/
theorem filterTerms_written (terms : List (Text × Text)) (writable : ∀ t ∈ terms, Writable t) :
    filterTerms (writtenFilter terms) = some terms := by
  cases terms with
  | nil => decide
  | cons term terms =>
    obtain ⟨x, shape⟩ := written_shape term terms
    have trimmed : trimSpace (writtenFilter (term :: terms)) = writtenFilter (term :: terms) := by
      rw [shape]
      exact trimSpace_of_trimmed (writable term (by simp)).trimmed (by decide) (by decide) x
    have listed : writtenFilter (term :: terms) ≠ [] := by simp [shape]
    simp only [filterTerms, trimmed, listed, if_false]
    rw [filterAndSplit, splitLoop_written terms term writable, mapM_written writable]

/-- A limit that is not negative cuts the list. -/
def cutTo (maxParts : Int16) (parts : List Wire.Partition) : List Wire.Partition :=
  if 0 ≤ maxParts.toInt then parts.take maxParts.toInt.toNat else parts

/-- The partitions of the table under `key` that satisfy every one of the terms. -/
def conjunction (store : Store) (key : Text) (tbl : Wire.Table) (terms : List (Text × Text)) :
    List Wire.Partition :=
  (store.partitionsAt key).filter fun p => terms.all fun term => matchesTerm tbl p term.1 term.2

/-- The server evaluates a filter with these terms as their conjunction, whatever the
version, the table, its partitions and the limit. -/
def EvaluatedAsConjunction (filter : Text) (terms : List (Text × Text)) : Prop :=
  ∀ v dbName tblName maxParts store catName db tbl, resolveDB v dbName = .ok (catName, db) →
    store.tables.lookup (tblKey catName db tblName) = some tbl →
    getPartitionsByFilter v dbName tblName filter maxParts store =
      .ok (cutTo maxParts (conjunction store (tblKey catName db tblName) tbl terms))

/-- The map that the terms are collected in. -/
def collect (terms : List (Text × Text)) (out : TermMap) : TermMap :=
  terms.foldl (fun out term => out.insert term.1 term.2) out

private theorem filterLoop_eq (filter : Text) (pieces : List Text) (out : TermMap) :
    filterLoop filter pieces out =
      (pieces.mapM parseFilterEqTerm).elim (.error (unsupportedFilter filter))
        fun terms => .ok (collect terms out) := by
  induction pieces generalizing out with
  | nil => rfl
  | cons piece rest ih =>
    rw [List.mapM_cons]
    cases parsed : parseFilterEqTerm piece with
    | none => simp [filterLoop, parsed]
    | some term =>
      simp only [filterLoop, parsed, ih]
      cases rest.mapM parseFilterEqTerm with
      | none => rfl
      | some more => rfl

/-- A filter is accepted with its terms collected, or refused as a whole. -/
theorem parsePartitionFilter_eq (filter : Text) :
    parsePartitionFilter filter =
      (filterTerms filter).elim (.error (unsupportedFilter (trimSpace filter)))
        fun terms => .ok (collect terms ∅) := by
  unfold parsePartitionFilter filterTerms
  by_cases empty : trimSpace filter = []
  · simp only [empty, if_true]
    rfl
  · simp only [empty, if_false]
    exact filterLoop_eq _ _ _

/-- The map holds one of the terms for each key, and nothing else. -/
private theorem lookup_collect (terms : List (Text × Text)) (out : TermMap) (k : Text) :
    (∃ v, (k, v) ∈ terms ∧ (collect terms out).lookup k = some v) ∨
      (∀ v, (k, v) ∉ terms) ∧ (collect terms out).lookup k = out.lookup k := by
  induction terms generalizing out with
  | nil => exact .inr ⟨by simp, rfl⟩
  | cons term rest ih =>
    rcases ih (out.insert term.1 term.2) with ⟨v, inside, found⟩ | ⟨absent, found⟩
    · exact .inl ⟨v, List.mem_cons_of_mem _ inside, found⟩
    · by_cases same : k = term.1
      · subst same
        rw [AList.lookup_insert] at found
        exact .inl ⟨term.2, List.mem_cons_self, found⟩
      · rw [AList.lookup_insert_ne same] at found
        refine .inr ⟨?_, found⟩
        intro v inside
        rcases List.mem_cons.mp inside with rfl | later
        · exact same rfl
        · exact absent v later

private theorem matchesFilterTerms_iff (tbl : Wire.Table) (p : Wire.Partition) (terms : TermMap) :
    partitionMatchesFilterTerms tbl p terms = true ↔
      ∀ k v, terms.lookup k = some v → matchesTerm tbl p k v = true := by
  simp only [partitionMatchesFilterTerms, List.all_eq_true]
  constructor
  · intro every k v found
    exact every ⟨k, v⟩ (AList.mem_lookup_iff.mp found)
  · rintro every ⟨k, v⟩ inside
    exact every k v (AList.mem_lookup_iff.mpr inside)

/-- Where no key has two values, the map is as good as the terms. -/
private theorem matches_collect (agree : ∀ k v v', (k, v) ∈ terms → (k, v') ∈ terms → v = v')
    (tbl : Wire.Table) (p : Wire.Partition) :
    partitionMatchesFilterTerms tbl p (collect terms ∅) =
      terms.all fun term => matchesTerm tbl p term.1 term.2 := by
  rw [Bool.eq_iff_iff, matchesFilterTerms_iff, List.all_eq_true]
  constructor
  · rintro every ⟨k, v⟩ inside
    rcases lookup_collect terms ∅ k with ⟨w, asked, found⟩ | ⟨absent, -⟩
    · rw [agree k v w inside asked]
      exact every k w found
    · exact absurd inside (absent v)
  · intro every k v found
    rcases lookup_collect terms ∅ k with ⟨w, asked, kept⟩ | ⟨-, missing⟩
    · rw [kept] at found
      cases found
      exact every (k, v) asked
    · simp [missing] at found

private theorem truncateParts_eq (parts : List Wire.Partition) (maxParts : Int16) :
    truncateParts parts maxParts = cutTo maxParts parts := by
  unfold truncateParts cutTo
  by_cases limit : 0 ≤ maxParts.toInt
  · by_cases more : maxParts.toInt < parts.length
    · simp [limit, more]
    · simp only [limit, more, decide_true, decide_false, Bool.and_false, if_true]
      rw [List.take_of_length_le (by omega)]
      rfl
  · simp [limit]

/-- The answer, once the filter is read. -/
private theorem getPartitionsByFilter_eq (resolved : resolveDB v dbName = .ok (catName, db))
    (table : store.tables.lookup (tblKey catName db tblName) = some tbl)
    (parsed : parsePartitionFilter filter = .ok terms) :
    getPartitionsByFilter v dbName tblName filter maxParts store =
      .ok (cutTo maxParts ((store.partitionsAt (tblKey catName db tblName)).filter
        (partitionMatchesFilterTerms tbl · terms))) := by
  have found : store.tableAt catName db tblName = .ok tbl := by
    rw [Store.tableAt, table]
  simp only [getPartitionsByFilter, resolved, parsed, bind, Except.bind, found, truncateParts_eq]
  rfl

/-! ## A partition that the map accepts -/

/-- A table with the keys of the map, and the partition with its values. -/
def tableOf (terms : TermMap) : Wire.Table :=
  { partitionKeys := some (terms.entries.map fun term => { name := term.1 }) }

@[inherit_doc tableOf]
def partitionOf (terms : TermMap) : Wire.Partition :=
  { values := some (terms.entries.map fun term => term.2) }

/-- Finding a key's place and taking the value there is looking the key up. -/
private theorem value_at_place (l : List (Sigma fun _ : Text => Text)) (k : Text) :
    (((l.map fun term => ({ name := term.1 } : Wire.FieldSchema)).findIdx? (·.name = k)).bind
      fun idx => (l.map fun term => term.2)[idx]?) = l.dlookup k := by
  induction l with
  | nil => rfl
  | cons term rest ih =>
    obtain ⟨k', v⟩ := term
    by_cases same : k' = k
    · subst same
      simp [List.findIdx?_cons]
    · rw [List.dlookup_cons_ne _ _ (Ne.symm same), ← ih]
      cases place : (rest.map fun term => ({ name := term.1 } : Wire.FieldSchema)).findIdx?
          (·.name = k) <;>
        simp [List.findIdx?_cons, same, place]

private theorem matchesTerm_iff (tbl : Wire.Table) (p : Wire.Partition) (k v : Text) :
    matchesTerm tbl p k v = true ↔
      ((tbl.partitionKeys.items.findIdx? (·.name = k)).bind fun idx => p.values.items[idx]?) =
        some v := by
  unfold matchesTerm
  split <;> simp [*]

private theorem matchesTerm_partitionOf (terms : TermMap) (k v : Text) :
    matchesTerm (tableOf terms) (partitionOf terms) k v = true ↔ terms.lookup k = some v := by
  rw [matchesTerm_iff, AList.lookup, ← value_at_place]
  rfl

/-- A filter is evaluated as the conjunction of its terms, in every table, exactly when no
key is asked to have two values. -/
theorem filter_is_conjunction_iff (filter : Text) (terms : List (Text × Text))
    (accepted : filterTerms filter = some terms) :
    EvaluatedAsConjunction filter terms ↔
      ∀ k v v', (k, v) ∈ terms → (k, v') ∈ terms → v = v' := by
  have parsed := parsePartitionFilter_eq filter
  rw [accepted] at parsed
  constructor
  · intro evaluated k v v' asked asked'
    -- The partition with the values of the map is found, so it has every value asked for.
    let key := tblKey defaultCatalog [] []
    let store : Store :=
      { catalogs := ∅
        tables := AList.insert key (tableOf (collect terms ∅)) ∅
        partitions := AList.insert key [partitionOf (collect terms ∅)] ∅
        events := [] }
    have table : store.tables.lookup key = some (tableOf (collect terms ∅)) :=
      AList.lookup_insert _
    have parts : store.partitionsAt key = [partitionOf (collect terms ∅)] := by
      rw [Store.partitionsAt, AList.lookup_insert, Option.getD_some]
    have matched : partitionMatchesFilterTerms (tableOf (collect terms ∅))
        (partitionOf (collect terms ∅)) (collect terms ∅) = true := by
      rw [matchesFilterTerms_iff]
      intro k v found
      exact (matchesTerm_partitionOf _ k v).mpr found
    have answer := evaluated .hive40 [] [] (-1) store defaultCatalog [] _ rfl table
    rw [getPartitionsByFilter_eq rfl table parsed] at answer
    have same := Except.ok.inj answer
    have whole : ∀ parts, cutTo (-1) parts = parts := fun _ => rfl
    have kept : partitionOf (collect terms ∅) ∈
        conjunction store key (tableOf (collect terms ∅)) terms := by
      rw [← whole (conjunction _ _ _ _), ← same, whole, parts]
      simp [matched]
    have every := List.all_eq_true.mp (List.mem_filter.mp kept).2
    have found := (matchesTerm_partitionOf _ k v).mp (every (k, v) asked)
    have found' := (matchesTerm_partitionOf _ k v').mp (every (k, v') asked')
    rw [found] at found'
    exact Option.some.inj found'
  · intro agree v dbName tblName maxParts store catName db tbl resolved table
    rw [getPartitionsByFilter_eq resolved table parsed, conjunction]
    simp only [matches_collect agree]

private theorem writable_letters (plain : k ∈ [104, 107]) (plain' : v ∈ [97, 98]) :
    Writable ([k], [v]) := by
  simp only [List.mem_cons, List.not_mem_nil, or_false] at plain plain'
  rcases plain with rfl | rfl <;> rcases plain' with rfl | rfl <;>
    exact ⟨by decide, by decide, by decide, by decide, by decide, by decide⟩

/-- `k='a' and h='b'`. -/
theorem filter_is_conjunction_two_keys :
    ∃ filter, filterTerms filter = some [([107], [97]), ([104], [98])] ∧
      EvaluatedAsConjunction filter [([107], [97]), ([104], [98])] := by
  have read := filterTerms_written [([107], [97]), ([104], [98])] (by simp [writable_letters])
  refine ⟨writtenFilter [([107], [97]), ([104], [98])], read,
    (filter_is_conjunction_iff _ _ read).mpr ?_⟩
  intro k v v' asked asked'
  simp only [List.mem_cons, Prod.mk.injEq, List.not_mem_nil, or_false] at asked asked'
  rcases asked with ⟨rfl, rfl⟩ | ⟨rfl, rfl⟩ <;> simp_all

/-- `k='a' and k='b'` finds the partition `k=b`, which does not satisfy `k='a'`. -/
theorem filter_drops_repeated_key :
    ∃ filter, filterTerms filter = some [([107], [97]), ([107], [98])] ∧
      (getPartitionsByFilter .hive40 [100] [116] filter (-1) (storeOf [lettered 98])) =
        .ok [lettered 98] ∧
      conjunction (storeOf [lettered 98]) (tblKey defaultCatalog [100] [116]) keyed
        [([107], [97]), ([107], [98])] = [] :=
  ⟨writtenFilter [([107], [97]), ([107], [98])], filterTerms_written _ (by simp [writable_letters]),
    by decide +kernel, by decide +kernel⟩

end HmsClient.Hmstest
