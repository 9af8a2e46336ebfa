import HmsClient.Operations

/-! `GetNextNotifications` against the fake metastore of `hmstest`. The server cuts the
answer to the limit; whether it picks the event types before or after the cut depends
on its version, and the client can only pick them after. -/
namespace HmsClient
open PeerScript

/-- The versions the fake metastore emulates. -/
inductive Version where
  | hive23
  | hive31
  | hive40
deriving DecidableEq

/-- The server's events, oldest first. -/
structure EventLog where
  events : List Wire.NotificationEvent
  increasing : events.Pairwise fun a b => a.eventId < b.eventId

/-- Whether the answer has as many events as were asked for. -/
def limitReached (maxEvents : Option Int32) (size : Nat) : Bool :=
  match maxEvents with
  | none => false
  | some m => 0 < m.toInt && m.toInt ≤ size

/-- Whether the server picks by type and this event is of another one. -/
def skipped (want : Option (List Text)) (e : Wire.NotificationEvent) : Bool :=
  match want with
  | none => false
  | some types => !types.contains e.eventType

/-- The loop of the handler, with the answer so far. -/
def collect (req : Wire.NotificationEventRequest) (want : Option (List Text)) :
    (out events : List Wire.NotificationEvent) → List Wire.NotificationEvent
  | out, [] => out
  | out, e :: rest =>
    if e.eventId ≤ req.lastEvent then collect req want out rest
    else if skipped want e then collect req want out rest
    else if limitReached req.maxEvents (out.length + 1) then out ++ [e]
    else collect req want (out ++ [e]) rest

/-- `handler.GetNextNotification`. -/
def handleGetNextNotification (v : Version) (events : List Wire.NotificationEvent)
    (req : Wire.NotificationEventRequest) : List Wire.NotificationEvent :=
  let want := if v = .hive40 && req.eventTypeList.items ≠ [] then some req.eventTypeList.items else none
  collect req want [] events

/-- A server with a log of events, and whatever it answers to other requests. -/
def fakeMetastore (v : Version) (log : EventLog) (others : (call : Call) → Except RpcErr call.Reply) :
    (call : Call) → Except RpcErr call.Reply
  | .getNextNotification req => .ok (some (handleGetNextNotification v log.events req))
  | call => others call

/-- What `GetNextNotifications` assigns and returns in an attempt on that server. -/
def attemptNotifications (v : Version) (log : EventLog)
    (others : (call : Call) → Except RpcErr call.Reply) (lastEventID : Int64) (max : Int)
    (eventTypes : List Text) (s : Session (List NotificationEvent)) :
    Except Err Unit × Session (List NotificationEvent) :=
  (getNextNotifications lastEventID max eventTypes s).answeredBy (fakeMetastore v log others)

/-! ## What is expected of it -/

/-- The events after one id. -/
def EventLog.after (log : EventLog) (lastEventID : Int64) : List Wire.NotificationEvent :=
  log.events.filter fun e => lastEventID < e.eventId

def wanted (eventTypes : List Text) (e : Wire.NotificationEvent) : Bool :=
  eventTypes = [] || eventTypes.contains e.eventType

/-- The events after one id that are of the given types, cut to the first `max`. -/
def EventLog.expected (log : EventLog) (lastEventID : Int64) (max : Int) (eventTypes : List Text) :
    List NotificationEvent :=
  let events := (log.after lastEventID).filter (wanted eventTypes)
  (if max > 0 then events.take max.toNat else events).map notificationFromThrift

/-- The limit that reaches the server. -/
def limit (max : Int) : Nat := (min max maxInt32).toNat

/-- No event that is asked for is behind the cut, or the cut takes only such events. -/
def EventLog.CutIsHarmless (log : EventLog) (lastEventID : Int64) (max : Int)
    (eventTypes : List Text) : Prop :=
  max ≤ 0 ∨ (∀ e ∈ (log.after lastEventID).drop (limit max), wanted eventTypes e = false) ∨
    (max ≤ maxInt32 ∧ ∀ e ∈ (log.after lastEventID).take (limit max), wanted eventTypes e = true)

/-! ## The handler -/

private def keeps (req : Wire.NotificationEventRequest) (want : Option (List Text))
    (e : Wire.NotificationEvent) : Bool :=
  req.lastEvent < e.eventId && !skipped want e

private theorem collect_cons (req : Wire.NotificationEventRequest) (want : Option (List Text))
    (out : List Wire.NotificationEvent) (e : Wire.NotificationEvent)
    (rest : List Wire.NotificationEvent) :
    collect req want out (e :: rest) =
      if keeps req want e then
        if limitReached req.maxEvents (out.length + 1) then out ++ [e]
        else collect req want (out ++ [e]) rest
      else collect req want out rest := by
  rw [collect]
  by_cases old : e.eventId ≤ req.lastEvent
  · have dropped : keeps req want e = false := by simp [keeps, Int64.not_lt.mpr old]
    simp [old, dropped]
  · have kept : keeps req want e = !skipped want e := by simp [keeps, Int64.not_le.mp old]
    cases other : skipped want e <;> simp [old, kept, other]

variable {req : Wire.NotificationEventRequest} {n m : Nat} {max : Int} {p : α → Bool}

private theorem collect_unlimited {want : Option (List Text)} (unlimited : req.maxEvents = none)
    (out events : List Wire.NotificationEvent) :
    collect req want out events = out ++ events.filter (keeps req want) := by
  induction events generalizing out with
  | nil => simp [collect]
  | cons e rest ih =>
    have never : limitReached req.maxEvents (out.length + 1) = false := by rw [unlimited]; rfl
    rw [collect_cons, never, ih, ih, List.filter_cons]
    split <;> simp

private theorem collect_limited {want : Option (List Text)} {m : Int32}
    (limited : req.maxEvents = some m) (value : m.toInt = n)
    (out events : List Wire.NotificationEvent) (room : out.length < n) :
    collect req want out events = out ++ (events.filter (keeps req want)).take (n - out.length) := by
  induction events generalizing out with
  | nil => simp [collect]
  | cons e rest ih =>
    have reached : limitReached req.maxEvents (out.length + 1) = decide (n ≤ out.length + 1) := by
      simp only [limited, limitReached, value]
      by_cases full : n ≤ out.length + 1 <;> simp [full] <;> omega
    rw [collect_cons, reached, List.filter_cons]
    split
    · by_cases full : n ≤ out.length + 1
      · have last : n - out.length = 1 := by omega
        simp [full, last]
      · have more : n - out.length = (n - (out ++ [e]).length) + 1 := by simp; omega
        rw [if_neg (by simpa using full), ih (out ++ [e]) (by simp; omega), more, List.take_succ_cons,
          List.append_assoc, List.singleton_append]
    · exact ih out room

/-- Which events a server of a version picks. -/
private def picks (v : Version) (eventTypes : List Text) (e : Wire.NotificationEvent) : Bool :=
  v ≠ .hive40 || wanted eventTypes e

private theorem picks_before_hive40 {v : Version} (before : v ≠ .hive40) {eventTypes : List Text} :
    picks v eventTypes = fun _ => true := by
  funext e
  simp [picks, before]

/-- The cut the server makes. -/
private def cut (max : Int) (events : List Wire.NotificationEvent) : List Wire.NotificationEvent :=
  if max > 0 then events.take (limit max) else events

private theorem types_items (lastEventID : Int64) (max : Int) (eventTypes : List Text) :
    (newNotificationEventRequest lastEventID max eventTypes).eventTypeList.items = eventTypes := by
  by_cases none : eventTypes = [] <;> simp [newNotificationEventRequest, none]

private theorem limit_toInt (positive : max > 0) :
    (Int32.ofInt (if max > maxInt32 then maxInt32 else max)).toInt = limit max := by
  have bound : (if max > maxInt32 then maxInt32 else max) = min max maxInt32 := by
    unfold maxInt32
    split <;> omega
  have upper : min max maxInt32 ≤ 2147483647 := Int.min_le_right ..
  have lower : 0 < min max maxInt32 := by unfold maxInt32; omega
  rw [bound, Int32.toInt_ofInt_of_le (by omega) (by omega), limit, Int.toNat_of_nonneg (by omega)]

private theorem handle_eq (v : Version) (log : EventLog) (lastEventID : Int64) (max : Int)
    (eventTypes : List Text) :
    handleGetNextNotification v log.events (newNotificationEventRequest lastEventID max eventTypes) =
      cut max ((log.after lastEventID).filter (picks v eventTypes)) := by
  have kept : ∀ want, (∀ e, skipped want e = !picks v eventTypes e) →
      collect (newNotificationEventRequest lastEventID max eventTypes) want [] log.events =
        cut max ((log.after lastEventID).filter (picks v eventTypes)) := by
    intro want skips
    have same : log.events.filter (keeps (newNotificationEventRequest lastEventID max eventTypes) want) =
        (log.after lastEventID).filter (picks v eventTypes) := by
      rw [EventLog.after, List.filter_filter]
      refine List.filter_congr fun e _ => ?_
      rw [keeps, skips, Bool.not_not, Bool.and_comm]
      rfl
    by_cases positive : max > 0
    · have limited : (newNotificationEventRequest lastEventID max eventTypes).maxEvents =
          some (.ofInt (if max > maxInt32 then maxInt32 else max)) := if_pos positive
      have room : 0 < limit max := by unfold limit maxInt32; omega
      rw [collect_limited limited (limit_toInt positive) [] _ room, same, cut, if_pos positive]
      rfl
    · have unlimited : (newNotificationEventRequest lastEventID max eventTypes).maxEvents = none :=
        if_neg positive
      rw [collect_unlimited unlimited, same, cut, if_neg positive]
      rfl
  refine kept _ fun e => ?_
  rw [types_items]
  by_cases filters : v = .hive40 <;> by_cases none : eventTypes = [] <;>
    simp [skipped, picks, wanted, filters, none]

/-- Where types and limit do not get in each other's way, the client is left with the first
events of its types. -/
theorem handle_honours {v : Version} {eventTypes : List Text}
    (honoured : max ≤ 0 ∨ eventTypes = [] ∨ v = .hive40) (log : EventLog) (lastEventID : Int64) :
    (handleGetNextNotification v log.events
        (newNotificationEventRequest lastEventID max eventTypes)).filter (wanted eventTypes) =
      if max > 0 then ((log.after lastEventID).filter (wanted eventTypes)).take (limit max)
      else (log.after lastEventID).filter (wanted eventTypes) := by
  have picked : (log.after lastEventID).filter (wanted eventTypes) =
      ((log.after lastEventID).filter (picks v eventTypes)).filter (wanted eventTypes) := by
    rw [List.filter_filter]
    refine List.filter_congr fun e _ => ?_
    cases v <;> simp [picks]
  rw [handle_eq, cut]
  split
  · next positive =>
    have first : ∀ e, picks v eventTypes e = wanted eventTypes e := by
      intro e
      rcases honoured with none | rfl | rfl
      · omega
      · simp [picks, wanted]
      · simp [picks]
    rw [List.filter_congr fun e _ => first e]
    refine List.filter_eq_self.mpr fun e inCut => ?_
    exact (List.mem_filter.mp (List.mem_of_mem_take inCut)).2
  · exact picked.symm

private theorem attempt_eq (v : Version) (log : EventLog)
    (others : (call : Call) → Except RpcErr call.Reply) (lastEventID : Int64) (max : Int)
    (eventTypes : List Text) (s : Session (List NotificationEvent)) :
    attemptNotifications v log others lastEventID max eventTypes s =
      (.ok (), { s with captured := ((cut max ((log.after lastEventID).filter
        (picks v eventTypes))).filter (wanted eventTypes)).map notificationFromThrift }) := by
  have picked : ∀ events : List Wire.NotificationEvent,
      (events.map notificationFromThrift).filter
          (fun ev => eventTypes = [] || eventTypes.contains ev.type) =
        (events.filter (wanted eventTypes)).map notificationFromThrift := fun events =>
    List.filter_map
  rw [← handle_eq, ← picked]
  rfl

private theorem take_of_filter (E : List α) (p : α → Bool) (le : m ≤ n) :
    (E.filter p).take n =
      (E.take m).filter p ++ ((E.drop m).filter p).take (n - ((E.take m).filter p).length) := by
  have short : ((E.take m).filter p).length ≤ n := by
    have := List.length_filter_le p (E.take m)
    have := List.length_take_le m E
    omega
  have split : E.filter p = (E.take m).filter p ++ (E.drop m).filter p := by
    rw [← List.filter_append, List.take_append_drop]
  rw [split, List.take_append, List.take_of_length_le short]

/-- A cut before the choice is a cut after it if nothing chosen is lost, or if the cut
takes nothing else. -/
private theorem filter_of_take {E : List α} (le : m ≤ n)
    (harmless : (∀ e ∈ E.drop m, p e = false) ∨ (m = n ∧ ∀ e ∈ E.take m, p e = true)) :
    (E.take m).filter p = (E.filter p).take n := by
  rw [take_of_filter E p le]
  rcases harmless with none | ⟨rfl, all⟩
  · have empty : (E.drop m).filter p = [] :=
      List.filter_eq_nil_iff.mpr fun e behind => by simp [none e behind]
    rw [empty, List.take_nil, List.append_nil]
  · have whole : (E.take m).filter p = E.take m := List.filter_eq_self.mpr all
    rw [whole]
    by_cases long : m ≤ E.length
    · rw [List.length_take_of_le long, Nat.sub_self, List.take_zero, List.append_nil]
    · rw [List.drop_eq_nil_of_le (by omega), List.filter_nil, List.take_nil, List.append_nil]

private theorem harmless_of_length {E : List α} (le : m ≤ n)
    (same : ((E.take m).filter p).length = ((E.filter p).take n).length) :
    (∀ e ∈ E.drop m, p e = false) ∨ (m = n ∧ ∀ e ∈ E.take m, p e = true) := by
  rw [take_of_filter E p le, List.length_append, List.length_take] at same
  have chosen := List.length_filter_le p (E.take m)
  have taken := List.length_take_le m E
  by_cases none : ((E.drop m).filter p).length = 0
  · refine .inl fun e behind => ?_
    exact Bool.eq_false_iff.mpr (List.filter_eq_nil_iff.mp (List.length_eq_zero_iff.mp none) e behind)
  · refine .inr ⟨by omega, List.length_filter_eq_length_iff.mp (by omega)⟩

private theorem limit_le (max : Int) : limit max ≤ max.toNat :=
  Int.toNat_le_toNat (Int.min_le_left ..)

private theorem limit_eq_iff (positive : max > 0) : limit max = max.toNat ↔ max ≤ maxInt32 := by
  unfold limit maxInt32
  omega

/-- What the client keeps of an answer in which the server has picked first. -/
private theorem filter_of_picked (E : List α) (le : m ≤ n)
    (harmless : (∀ e ∈ E.drop m, p e = false) ∨ (m = n ∧ ∀ e ∈ E.take m, p e = true)) :
    ((E.filter p).take m).filter p = (E.filter p).take n := by
  have cutFirst := filter_of_take le harmless
  have short : ((E.filter p).take n).length ≤ m := by
    rw [← cutFirst]
    exact Nat.le_trans (List.length_filter_le p _) (List.length_take_le m E)
  have same : (E.filter p).take m = (E.filter p).take n := by
    rw [← List.take_of_length_le short, List.take_take, Nat.min_eq_left le]
  rw [same]
  refine List.filter_eq_self.mpr fun e inCut => ?_
  exact (List.mem_filter.mp (List.mem_of_mem_take inCut)).2

/-- Every version answers with the expected events exactly when the server's cut loses
none of them. -/
theorem notifications_uniform_iff (log : EventLog)
    (others : (call : Call) → Except RpcErr call.Reply) (lastEventID : Int64) (max : Int)
    (eventTypes : List Text) (s : Session (List NotificationEvent)) :
    (∀ v, attemptNotifications v log others lastEventID max eventTypes s =
      (.ok (), { s with captured := log.expected lastEventID max eventTypes })) ↔
      log.CutIsHarmless lastEventID max eventTypes := by
  constructor
  · intro uniform
    by_cases positive : max > 0
    · have served := congrArg (fun out => out.2.captured.length)
        ((attempt_eq .hive31 log others lastEventID max eventTypes s).symm.trans (uniform .hive31))
      simp only [EventLog.expected, cut, if_pos positive,
        picks_before_hive40 (show Version.hive31 ≠ .hive40 by decide), List.filter_true,
        List.length_map] at served
      refine .inr ((harmless_of_length (limit_le max) served).imp id fun ⟨same, first⟩ => ?_)
      exact ⟨(limit_eq_iff positive).mp same, first⟩
    · exact .inl (by omega)
  · intro harmless v
    rw [attempt_eq]
    suffices same : (cut max ((log.after lastEventID).filter (picks v eventTypes))).filter
        (wanted eventTypes) =
          if max > 0 then ((log.after lastEventID).filter (wanted eventTypes)).take max.toNat
          else (log.after lastEventID).filter (wanted eventTypes) by
      rw [same]
      rfl
    by_cases positive : max > 0
    · have harmless : (∀ e ∈ (log.after lastEventID).drop (limit max), wanted eventTypes e = false) ∨
          (limit max = max.toNat ∧
            ∀ e ∈ (log.after lastEventID).take (limit max), wanted eventTypes e = true) := by
        rcases harmless with none | rest
        · omega
        · exact rest.imp id fun ⟨small, first⟩ => ⟨(limit_eq_iff positive).mpr small, first⟩
      rw [cut, if_pos positive, if_pos positive]
      cases v with
      | hive40 => exact filter_of_picked _ (limit_le max) harmless
      | hive23 | hive31 =>
        rw [picks_before_hive40 (by decide), List.filter_true]
        exact filter_of_take (limit_le max) harmless
    · rw [cut, if_neg positive, if_neg positive, List.filter_filter]
      refine List.filter_congr fun e _ => ?_
      cases chosen : wanted eventTypes e <;> simp [picks, chosen]

private def eventOf (id : Int64) (type : Text) : Wire.NotificationEvent :=
  ⟨id, 0, type, none, none, [], none, none⟩

/-- An event of type "A" and then one of type "B". -/
private def twoEvents : EventLog :=
  ⟨[eventOf 1 [65], eventOf 2 [66]], by decide⟩

/-- With a limit of one event of type "B", a server that cuts first sends only the event
of type "A". -/
theorem limit_hides_wanted_event :
    let s : Session (List NotificationEvent) := ⟨.no, [], [], []⟩
    let others := fun call : Call => (.error ⟨.leaf .eof, by decide⟩ : Except RpcErr call.Reply)
    (attemptNotifications .hive40 twoEvents others 0 1 [[66]] s).2.captured.map (·.id) = [2] ∧
      (attemptNotifications .hive31 twoEvents others 0 1 [[66]] s).2.captured = [] ∧
      (attemptNotifications .hive23 twoEvents others 0 1 [[66]] s).2.captured = [] := by
  decide

end HmsClient
