import HmsClient.DialErrors

/-! What `wrapError` and `wrapAs` leave as it was. They put the operation's name and a
sentinel around an error. A search that looks for neither finds what it found before, and
the sentinel is the class the error has anyway, so `classify` gives the same answer for an
error and for what a caller gets to see of it. -/
namespace HmsClient
open CauseTree RetryLoop

private theorem find_wrapAs (op : String) (sentinel : Sentinel) (err : Err)
    (select : Node → Option β) (own : select (.hmsError op) = none)
    (forced : select (.sentinel sentinel) = none) :
    (wrapAs op sentinel err).find select = err.find select := by
  simp [wrapAs, Tree.find, Tree.nodes, Tree.nodes.nodesOf, Tree.leaf, own, forced]

@[simp] theorem isException_wrapAs (op : String) (sentinel : Sentinel) (err : Err)
    (exception : Exception) :
    (wrapAs op sentinel err).isException exception = err.isException exception := by
  simp [Err.isException, wrapAs_has]

@[simp] theorem typeId_wrapAs (op : String) (sentinel : Sentinel) (err : Err) :
    (wrapAs op sentinel err).typeId = err.typeId :=
  find_wrapAs op sentinel err _ rfl rfl

@[simp] theorem isConnectionError_wrapAs (op : String) (sentinel : Sentinel) (err : Err) :
    isConnectionError (wrapAs op sentinel err) = isConnectionError err := by
  simp [isConnectionError, wrapAs_has]

@[simp] theorem isUnknownMethod_wrapAs (op : String) (sentinel : Sentinel) (err : Err) :
    isUnknownMethod (wrapAs op sentinel err) = isUnknownMethod err := by
  rw [isUnknownMethod, isUnknownMethod, typeId_wrapAs]

theorem isUnknownMethod_wrapError (op : String) (err : Err) :
    isUnknownMethod (wrapError op err) = isUnknownMethod err := by
  rw [wrapError_eq]
  split
  · rfl
  · exact isUnknownMethod_wrapAs op _ err

@[simp] theorem isDesyncError_wrapAs (op : String) (sentinel : Sentinel) (err : Err) :
    isDesyncError (wrapAs op sentinel err) = isDesyncError err := by
  rw [isDesyncError, isDesyncError, typeId_wrapAs]

@[simp] theorem isProtocolError_wrapAs (op : String) (sentinel : Sentinel) (err : Err) :
    isProtocolError (wrapAs op sentinel err) = isProtocolError err := by
  rw [isProtocolError, isProtocolError, find_wrapAs op sentinel err _ rfl rfl]

@[simp] theorem isSentinel_wrapAs (op : String) (forced : Sentinel) (err : Err)
    (sentinel : Sentinel) :
    (wrapAs op forced err).isSentinel sentinel =
      (decide (forced = sentinel) || err.isSentinel sentinel) := by
  simp [Err.isSentinel, wrapAs_has]

/-! ## The cascade -/

/-- A case of the cascade that tests both errors alike. -/
private theorem case_kept {fires : Prop} [Decidable fires] {own s x y : Sentinel}
    (chosen : (if fires then own else x) = s) (rest : x = s → y = s) :
    (if fires then own else y) = s := by
  by_cases hit : fires
  · simpa only [hit, if_true] using chosen
  · simp only [hit, if_false] at chosen ⊢
    exact rest chosen

/-- The case of a sentinel, where the one that was chosen is present as well. -/
private theorem case_marked {present : Bool} {own s x y : Sentinel}
    (chosen : (if present then own else x) = s) (rest : x = s → y = s) :
    (if decide (s = own) || present then own else y) = s := by
  by_cases marked : s = own
  · simp [marked]
  · simp only [marked, decide_false, Bool.false_or]
    exact case_kept chosen rest

/-- Wrapping an error with its own class does not change its class. -/
private theorem classify_wrapAs_classify (op : String) (err : Err) :
    classify (wrapAs op (classify err) err) = classify err := by
  generalize chosen : classify err = s
  unfold classify at chosen ⊢
  simp only [isException_wrapAs, isUnknownMethod_wrapAs, isDesyncError_wrapAs, typeId_wrapAs,
    isConnectionError_wrapAs, isSentinel_wrapAs]
  -- The kinds of errors come first, and the sentinels after them.
  iterate 11 refine case_kept chosen fun chosen => ?_
  iterate 5 refine case_marked chosen fun chosen => ?_
  exact chosen

/-! ## Wrapping for a caller -/

private theorem wrapError_of_own {err : Err} (own : err.has isHmsError = true) (op : String) :
    wrapError op err = err := by
  rw [wrapError_eq, if_pos own]

private theorem wrapError_of_foreign {err : Err} (foreign : err.has isHmsError = false)
    (op : String) : wrapError op err = wrapAs op (classify err) err := by
  rw [wrapError_eq, foreign, if_neg Bool.false_ne_true]

private theorem wrapAs_own (op : String) (sentinel : Sentinel) (err : Err) :
    (wrapAs op sentinel err).has isHmsError = true := by
  rw [wrapAs_has]
  rfl

private theorem wrapError_again (op₁ op₂ : String) (err : Err) :
    wrapError op₂ (wrapError op₁ err) = wrapError op₁ err := by
  cases own : err.has isHmsError with
  | true => rw [wrapError_of_own own, wrapError_of_own own]
  | false => rw [wrapError_of_foreign own, wrapError_of_own (wrapAs_own _ _ _)]

private theorem errors_wrapAs (op : String) (sentinel : Sentinel) {err inside : Err}
    (reached : inside ∈ err.errors) : inside ∈ (wrapAs op sentinel err).errors := by
  simp [wrapAs, Tree.errors, Tree.errors.errorsOf, reached]

/-- What a caller gets to see of an error is of its class and holds all that it held. -/
structure KeepsClassification (err : Err) : Prop where
  classified : ∀ op, classify (wrapError op err) = classify err
  matched : ∀ op, (wrapError op err).isSentinel (classify err) = true
  wrappedOnce : ∀ op₁ op₂, wrapError op₂ (wrapError op₁ err) = wrapError op₁ err
  /-- A sentinel forced on the error is matched however it is wrapped. -/
  forced : ∀ op₁ op₂ s, (wrapError op₂ (wrapAs op₁ s err)).isSentinel s = true
  unknownMethod : ∀ op, isUnknownMethod (wrapError op err) = isUnknownMethod err
  desynchronized : ∀ op, isDesyncError (wrapError op err) = isDesyncError err
  protocol : ∀ op, isProtocolError (wrapError op err) = isProtocolError err
  reached : ∀ op, ∀ inside ∈ err.errors, inside ∈ (wrapError op err).errors
  found : ∀ op test, err.has test = true → (wrapError op err).has test = true

/-- Wrapping keeps the classification of an error that holds none of the package's own. -/
theorem wrapping_keeps_the_classification (err : Err) (foreign : err.has isHmsError = false) :
    KeepsClassification err where
  classified op := by
    rw [wrapError_of_foreign foreign]
    exact classify_wrapAs_classify op err
  matched op := by
    rw [wrapError_of_foreign foreign, isSentinel_wrapAs]
    simp
  wrappedOnce op₁ op₂ := wrapError_again op₁ op₂ err
  forced op₁ op₂ s := by
    rw [wrapError_of_own (wrapAs_own op₁ s err), isSentinel_wrapAs]
    simp
  unknownMethod op := isUnknownMethod_wrapError op err
  desynchronized op := by rw [wrapError_of_foreign foreign, isDesyncError_wrapAs]
  protocol op := by rw [wrapError_of_foreign foreign, isProtocolError_wrapAs]
  reached op inside reached := by
    rw [wrapError_of_foreign foreign]
    exact errors_wrapAs op _ reached
  found op test found := by
    rw [wrapError_of_foreign foreign, wrapAs_has, found]
    simp

/-- A connection reset inside a joined error, with a method the server does not know
beside it. -/
theorem joined_errors_keep_their_class :
    classify (.node .joined [.leaf .eof, .leaf (.application 1)]) = .errNotSupported ∧
    classify (wrapError "get_table_req" (.node .joined [.leaf .eof, .leaf (.application 1)])) =
      .errNotSupported :=
  ⟨by decide, ((wrapping_keeps_the_classification
    (.node .joined [.leaf .eof, .leaf (.application 1)]) (by decide)).classified _).trans
      (by decide)⟩

end HmsClient
