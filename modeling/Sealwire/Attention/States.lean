import Sealwire.Lib.InsertionMap
import Sealwire.Lib.Text

namespace Sealwire.Attention

/-- What the trackers read of a session snapshot; the lists hold the thread ids of their items. -/
structure SessionSnapshot where
  activeThreadId : Option String := none
  activeTurnId : Option String := none
  currentStatus : String := ""
  activeFlags : List String := []
  threadActivity : List String := []
  pendingApprovals : List String := []
  pendingAskUserQuestions : List String := []
  deriving DecidableEq, Repr

structure ThreadState where
  working : Bool := false
  needsInput : Bool := false
  deriving DecidableEq, Repr

abbrev ThreadStates := InsertionMap String ThreadState

namespace ThreadStates

def stateFor (states : ThreadStates) (id : String) : ThreadState := (states.get id).getD {}

def markWorking (states : ThreadStates) (id : String) : ThreadStates :=
  states.set id { states.stateFor id with working := true }

def markNeedsInput (states : ThreadStates) (id : String) : ThreadStates :=
  states.set id { states.stateFor id with needsInput := true }

theorem stateFor_markWorking (states : ThreadStates) (id other : String) :
    (states.markWorking id).stateFor other =
      if other = id then { states.stateFor id with working := true } else states.stateFor other := by
  simp only [stateFor, markWorking, InsertionMap.get_set]
  split <;> rfl

theorem stateFor_markNeedsInput (states : ThreadStates) (id other : String) :
    (states.markNeedsInput id).stateFor other =
      if other = id then { states.stateFor id with needsInput := true } else states.stateFor other := by
  simp only [stateFor, markNeedsInput, InsertionMap.get_set]
  split <;> rfl

theorem stateFor_of_not_mem {states : ThreadStates} {id : String} (absent : id ∉ states.keys) : states.stateFor id = {} := by
  rw [stateFor, InsertionMap.get, pairGet_none absent]
  rfl

end ThreadStates

def nonWorkingStatuses : List String :=
  ["", "idle", "viewing", "completed", "unknown", "notloaded", "systemerror"]

/-- `str::to_ascii_lowercase`. -/
def toAsciiLowercase (s : String) : String := String.ofList (s.toList.map Char.toLower)

def threadStatusIsWorking (status : String) : Bool :=
  !nonWorkingStatuses.contains (toAsciiLowercase (trim status))

/-- What `String.prototype.trim` takes away: the white space of Unicode but for the next-line
control, and the byte order mark. -/
def isScriptWhitespace (c : Char) : Bool := (isWhitespace c && c.toNat != 0x85) || c.toNat == 0xFEFF

def scriptTrim (s : String) : String :=
  String.ofList ((s.toList.dropWhile isScriptWhitespace).reverse.dropWhile isScriptWhitespace).reverse

/-- `String.prototype.toLowerCase` as far as its result can be ASCII: of the other letters only
the Kelvin sign and the dotted capital I have an ASCII letter in their lower case. -/
def scriptLower (c : Char) : List Char :=
  if c.toNat = 0x212A then ['k']
  else if c.toNat = 0x130 then ['i', Char.ofNat 0x307]
  else [c.toLower]

def normalizeThreadStatus (status : String) : String :=
  String.ofList ((scriptTrim status).toList.flatMap scriptLower)

def isWorkingThreadStatus (status : String) : Bool :=
  !nonWorkingStatuses.contains (normalizeThreadStatus status)

namespace SessionSnapshot

def waiting (snapshot : SessionSnapshot) : Bool :=
  snapshot.activeFlags.any fun flag => flag == "waitingOnApproval" || flag == "waitingOnAskUser"

/-- The states of one snapshot, of which `active` is the active thread and `working` tells
whether it works. -/
def statesWith (snapshot : SessionSnapshot) (active : Option String) (working : Bool) : ThreadStates :=
  let states : ThreadStates :=
    match active with
    | some id => if working then ThreadStates.markWorking InsertionMap.empty id else InsertionMap.empty
    | none => InsertionMap.empty
  let states := (snapshot.threadActivity.filter (· ≠ "")).foldl ThreadStates.markWorking states
  let states :=
    ((snapshot.pendingApprovals ++ snapshot.pendingAskUserQuestions).filter (· ≠ "")).foldl
      ThreadStates.markNeedsInput states
  match active with
  | some id => if snapshot.waiting then states.markNeedsInput id else states
  | none => states

/-- The relay's own: whatever id the active thread has. -/
def computeThreadStates (snapshot : SessionSnapshot) : ThreadStates :=
  snapshot.statesWith snapshot.activeThreadId
    (snapshot.activeTurnId.isSome || threadStatusIsWorking snapshot.currentStatus)

/-- The page's own: an empty id is none. -/
def pageThreadStates (snapshot : SessionSnapshot) : ThreadStates :=
  snapshot.statesWith (snapshot.activeThreadId.filter (· ≠ ""))
    (snapshot.activeTurnId.isSome || isWorkingThreadStatus snapshot.currentStatus)

end SessionSnapshot

section States

theorem stateFor_foldl_markWorking (ids : List String) (states : ThreadStates) (id : String) :
    (ids.foldl ThreadStates.markWorking states).stateFor id =
      { states.stateFor id with working := (states.stateFor id).working || ids.contains id } := by
  induction ids generalizing states with
  | nil => simp
  | cons first rest ih =>
    rw [List.foldl_cons, ih, ThreadStates.stateFor_markWorking]
    by_cases same : id = first
    · simp [same]
    · simp [same]

theorem stateFor_foldl_markNeedsInput (ids : List String) (states : ThreadStates) (id : String) :
    (ids.foldl ThreadStates.markNeedsInput states).stateFor id =
      { states.stateFor id with needsInput := (states.stateFor id).needsInput || ids.contains id } := by
  induction ids generalizing states with
  | nil => simp
  | cons first rest ih =>
    rw [List.foldl_cons, ih, ThreadStates.stateFor_markNeedsInput]
    by_cases same : id = first
    · simp [same]
    · simp [same]

/-- What a thread's state says of the snapshot. -/
theorem stateFor_statesWith (snapshot : SessionSnapshot) (active : Option String) (working : Bool) (id : String) :
    (snapshot.statesWith active working).stateFor id =
      { working := (active == some id && working) || (snapshot.threadActivity.filter (· ≠ "")).contains id,
        needsInput := ((snapshot.pendingApprovals ++ snapshot.pendingAskUserQuestions).filter (· ≠ "")).contains id ||
          (active == some id && snapshot.waiting) } := by
  have empty : ThreadStates.stateFor InsertionMap.empty id = {} := rfl
  unfold SessionSnapshot.statesWith
  cases active with
  | none => simp [stateFor_foldl_markNeedsInput, stateFor_foldl_markWorking, empty]
  | some active =>
    have fresh : ThreadStates.stateFor InsertionMap.empty active = {} := rfl
    by_cases same : id = active
    · subst same
      cases working <;> cases snapshot.waiting <;>
        simp [stateFor_foldl_markNeedsInput, stateFor_foldl_markWorking, ThreadStates.stateFor_markNeedsInput,
          ThreadStates.stateFor_markWorking, empty]
    · have other : active ≠ id := Ne.symm same
      cases working <;> cases snapshot.waiting <;>
        simp [stateFor_foldl_markNeedsInput, stateFor_foldl_markWorking, ThreadStates.stateFor_markNeedsInput,
          ThreadStates.stateFor_markWorking, empty, same, other]

namespace SessionSnapshot

/-- A snapshot that relay and page read alike: its active thread has an id unless it neither
works nor waits, and where the status decides whether it works both classify it the same way. -/
def ReadAlike (snapshot : SessionSnapshot) : Prop :=
  (snapshot.activeThreadId = some "" → snapshot.activeTurnId = none ∧
    threadStatusIsWorking snapshot.currentStatus = false ∧ snapshot.waiting = false) ∧
  ∀ id, snapshot.activeThreadId = some id → id ≠ "" → snapshot.activeTurnId = none → id ∉ snapshot.threadActivity →
    threadStatusIsWorking snapshot.currentStatus = isWorkingThreadStatus snapshot.currentStatus

variable {snapshot : SessionSnapshot}

theorem stateFor_eq_of_readAlike (alike : snapshot.ReadAlike) (id : String) :
    snapshot.computeThreadStates.stateFor id = snapshot.pageThreadStates.stateFor id := by
  rw [computeThreadStates, pageThreadStates, stateFor_statesWith, stateFor_statesWith]
  cases active : snapshot.activeThreadId with
  | none => simp
  | some named =>
    by_cases empty : named = ""
    · subst empty
      obtain ⟨turn, idle, quiet⟩ := alike.1 active
      simp [turn, idle, quiet]
    · have kept : (some named).filter (· ≠ "") = some named := by simp [empty]
      rw [kept]
      by_cases same : named = id
      · subst same
        cases turn : snapshot.activeTurnId with
        | some _ => simp
        | none =>
          by_cases listed : named ∈ snapshot.threadActivity
          · simp [listed, empty]
          · rw [alike.2 named active empty turn listed]
      · have other : (some named == some id) = false := by simpa using same
        simp only [other, Bool.false_and]

theorem readAlike_of_stateFor_eq
    (same : ∀ id, snapshot.computeThreadStates.stateFor id = snapshot.pageThreadStates.stateFor id) : snapshot.ReadAlike := by
  simp only [computeThreadStates, pageThreadStates, stateFor_statesWith] at same
  constructor
  · intro active
    have at_empty := same ""
    rw [active] at at_empty
    simp only [ThreadState.mk.injEq] at at_empty
    simpa [and_assoc] using at_empty
  · intro id active some_ turn unlisted
    have at_id := same id
    rw [active, turn] at at_id
    have kept : (some id).filter (· ≠ "") = some id := by simp [some_]
    rw [kept] at at_id
    simpa [unlisted] using at_id

/-- Read alike is exactly: every thread in the same state. -/
theorem readAlike_iff : snapshot.ReadAlike ↔
    ∀ id, snapshot.computeThreadStates.stateFor id = snapshot.pageThreadStates.stateFor id :=
  ⟨stateFor_eq_of_readAlike, readAlike_of_stateFor_eq⟩

end SessionSnapshot

end States

end Sealwire.Attention
