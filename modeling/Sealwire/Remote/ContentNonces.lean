import Std.Data.String.ToNat
import Sealwire.Lib.InsertionMap
import Sealwire.Lib.Numeral
import Sealwire.Lib.ReplayWindow

namespace Sealwire.Remote

/-- The newest numbers in which the phone still tells a repeat from a conflict. -/
def contentReplayWindow : Nat := 512

/-- What a connection keeps of the relay's signed content. -/
structure ContentConnection where
  helloNonce : String := ""
  helloDeviceId : String := ""
  relayContentSession : String := ""
  contentHighSeq : Nat := 0
  seenContentSeqs : InsertionMap Nat String := .empty

def contentSequence (nonce : String) : Option Nat :=
  if isNumeral 15 nonce.toList then
    let seq := numberOf nonce.toList
    if seq ≤ maxSafeInteger ∧ seq.repr = nonce then some seq else none
  else none

/-- The loop that deletes what is not above the floor. -/
def forgetBelow (floor : Int) (seen : InsertionMap Nat String) : InsertionMap Nat String :=
  seen.keys.foldl (fun seen (key : Nat) => if (key : Int) ≤ floor then seen.delete key else seen) seen

namespace ContentConnection

def sendRelayHello (connection : ContentConnection) (helloNonce deviceId : String) : ContentConnection :=
  { connection with
    helloNonce, helloDeviceId := deviceId, relayContentSession := "", contentHighSeq := 0, seenContentSeqs := .empty }

def rememberContentNonce (connection : ContentConnection) (nonce signature : String) : Bool × ContentConnection :=
  match contentSequence nonce with
  | none => (false, connection)
  | some seq =>
    let high := connection.contentHighSeq
    if (seq : Int) ≤ high - contentReplayWindow then (false, connection)
    else
      match (connection.seenContentSeqs.get seq).filter (· ≠ "") with
      | some previous => (previous == signature, connection)
      | none =>
        let seen := connection.seenContentSeqs.set seq signature
        let high := if seq > high then seq else high
        (true, { connection with
          contentHighSeq := high, seenContentSeqs := forgetBelow (high - contentReplayWindow) seen })

end ContentConnection

section Sequence

variable {nonce : String} {seq : Nat}

/-- A nonce is a number in exactly one spelling. -/
theorem contentSequence_eq_some_iff :
    contentSequence nonce = some seq ↔ nonce = seq.repr ∧ 0 < seq ∧ seq ≤ maxSafeInteger := by
  constructor
  · intro reads
    simp only [contentSequence] at reads
    split_ifs at reads with numeral safe
    cases reads
    obtain ⟨bound, spelling⟩ := safe
    refine ⟨spelling.symm, ?_, bound⟩
    rw [← spelling] at numeral
    exact pos_of_isNumeral numeral
  · rintro ⟨rfl, positive, bound⟩
    have small : seq ≤ 2 ^ 53 := by
      unfold maxSafeInteger at bound
      omega
    have short : seq < 10 ^ (15 + 1) := by omega
    unfold contentSequence
    rw [if_pos (isNumeral_repr positive short), numberOf_repr small]
    exact if_pos ⟨bound, rfl⟩

end Sequence

section Forgetting

variable {floor : Int} {seen : InsertionMap Nat String}

theorem get_foldl_forget (keys : List Nat) (key : Nat) :
    (keys.foldl (fun seen (key : Nat) => if (key : Int) ≤ floor then seen.delete key else seen) seen).get key =
      if key ∈ keys ∧ (key : Int) ≤ floor then none else seen.get key := by
  induction keys generalizing seen with
  | nil => simp
  | cons first rest ih =>
    rw [List.foldl_cons, ih]
    by_cases same : key = first
    · subst same
      by_cases low : (key : Int) ≤ floor
      · simp [low, InsertionMap.get_delete]
      · simp [low]
    · by_cases low : (first : Int) ≤ floor
      · simp [low, same, InsertionMap.get_delete]
      · simp [low, same]

theorem get_forgetBelow (key : Nat) :
    (forgetBelow floor seen).get key = if (key : Int) ≤ floor then none else seen.get key := by
  rw [forgetBelow, get_foldl_forget]
  by_cases low : (key : Int) ≤ floor
  · by_cases there : key ∈ seen.keys
    · simp [low, there]
    · have absent : seen.get key = none := pairGet_none there
      simp [low, absent]
  · simp [low]

end Forgetting

/-- A pair whose signature verified, so that it is not empty. -/
structure ContentPair where
  nonce : String
  signature : String
  signed : signature ≠ ""

namespace ContentConnection

variable (connection : ContentConnection)

def remember (connection : ContentConnection) (pair : ContentPair) : ContentConnection :=
  (connection.rememberContentNonce pair.nonce pair.signature).2

def takes (pair : ContentPair) : Bool := (connection.rememberContentNonce pair.nonce pair.signature).1

/-- The pairs of the run that are taken, each by what is remembered when it comes. -/
def taken (connection : ContentConnection) : List ContentPair → List ContentPair
  | [] => []
  | pair :: rest =>
    if connection.takes pair then pair :: (connection.remember pair).taken rest
    else (connection.remember pair).taken rest

/-- What is remembered, as a window of numbers. -/
def window : ReplayWindow := ⟨connection.contentHighSeq, connection.seenContentSeqs.keys.toFinset⟩

end ContentConnection

def numbersOf (taken : List ContentPair) : Set Nat := {n | ∃ pair ∈ taken, contentSequence pair.nonce = some n}

/-- The pruned map knows of the whole history what the window needs. -/
structure Remembers (connection : ContentConnection) (taken : List ContentPair) : Prop where
  tracks : ReplayWindow.Tracks contentReplayWindow connection.window (numbersOf taken)
  signed : ∀ n signature, connection.seenContentSeqs.get n = some signature →
    ∃ pair ∈ taken, contentSequence pair.nonce = some n ∧ pair.signature = signature
  one : ∀ pair ∈ taken, ∀ other ∈ taken, contentSequence pair.nonce = contentSequence other.nonce →
    pair.signature = other.signature

/-- The rule with nothing forgotten. -/
def Takes (taken : List ContentPair) (pair : ContentPair) : Prop :=
  ∃ seq, contentSequence pair.nonce = some seq ∧ (∀ m ∈ numbersOf taken, m < seq + contentReplayWindow) ∧
    ∀ other ∈ taken, contentSequence other.nonce = some seq → other.signature = pair.signature

section Rule

variable {connection : ContentConnection} {taken : List ContentPair} {pair : ContentPair} {seq : Nat}

theorem remembers_sendRelayHello (helloNonce deviceId : String) :
    Remembers (connection.sendRelayHello helloNonce deviceId) [] where
  tracks := by
    have none_taken : numbersOf [] = ∅ := by simp [numbersOf]
    rw [none_taken]
    exact ReplayWindow.tracks_empty contentReplayWindow
  signed n signature found := by cases found
  one pair member := by cases member

theorem mem_window_used : seq ∈ connection.window.used ↔ ∃ signature, connection.seenContentSeqs.get seq = some signature := by
  rw [ContentConnection.window, List.mem_toFinset, ← InsertionMap.has_iff_mem, InsertionMap.has_iff_get]

namespace Remembers

/-- A number inside the window is above every taken one less the width, and below none. -/
theorem inside_iff (remembers : Remembers connection taken) (positive : 0 < seq) :
    connection.contentHighSeq < seq + contentReplayWindow ↔ ∀ m ∈ numbersOf taken, m < seq + contentReplayWindow := by
  constructor
  · intro inside m member
    have below : m ≤ connection.contentHighSeq := remembers.tracks.below m member
    omega
  · intro every
    rcases remembers.tracks.attained with none_taken | top
    · have zero : connection.contentHighSeq = 0 := none_taken
      omega
    · exact every _ top

/-- Inside the window the map has what was taken under the number, and nothing else. -/
theorem get_iff (remembers : Remembers connection taken) (inside : connection.contentHighSeq < seq + contentReplayWindow)
    {signature : String} : connection.seenContentSeqs.get seq = some signature ↔
      ∃ other ∈ taken, contentSequence other.nonce = some seq ∧ other.signature = signature := by
  refine ⟨remembers.signed seq signature, ?_⟩
  rintro ⟨other, member, number, rfl⟩
  have held : seq ∈ connection.window.used := (remembers.tracks.held seq).mpr ⟨⟨other, member, number⟩, inside⟩
  obtain ⟨signature, found⟩ := mem_window_used.mp held
  obtain ⟨same, member', number', rfl⟩ := remembers.signed seq signature found
  rw [found, remembers.one same member' other member (number'.trans number.symm)]

/-- What is remembered takes a pair where the whole history does. -/
theorem takes_iff (remembers : Remembers connection taken) : connection.takes pair = true ↔ Takes taken pair := by
  unfold ContentConnection.takes ContentConnection.rememberContentNonce Takes
  cases number : contentSequence pair.nonce with
  | none => simp
  | some seq =>
    have positive : 0 < seq := (contentSequence_eq_some_iff.mp number).2.1
    simp only [Option.some.injEq, exists_eq_left']
    by_cases stale : (seq : Int) ≤ connection.contentHighSeq - contentReplayWindow
    · have outside : ¬ connection.contentHighSeq < seq + contentReplayWindow := by omega
      rw [remembers.inside_iff positive] at outside
      simp [stale, outside]
    · have inside : connection.contentHighSeq < seq + contentReplayWindow := by omega
      have every := (remembers.inside_iff positive).mp inside
      simp only [stale, if_false]
      cases found : connection.seenContentSeqs.get seq with
      | none =>
        have fresh : ∀ other ∈ taken, contentSequence other.nonce = some seq → other.signature = pair.signature := by
          intro other member number'
          have known := (remembers.get_iff inside).mpr ⟨other, member, number', rfl⟩
          rw [found] at known
          cases known
        simp only [Option.filter_none]
        exact iff_of_true trivial ⟨every, fresh⟩
      | some previous =>
        obtain ⟨known, member, number', rfl⟩ := (remembers.get_iff inside).mp found
        have kept : (some known.signature).filter (· ≠ "") = some known.signature := by simp [known.signed]
        rw [kept]
        simp only [beq_iff_eq]
        constructor
        · intro same
          refine ⟨every, fun other there number'' => ?_⟩
          rw [← same]
          exact remembers.one other there known member (number''.trans number'.symm)
        · exact fun rule => rule.2 known member number'

end Remembers

/-- What the connection keeps once a pair is recorded. -/
def recorded (connection : ContentConnection) (seq : Nat) (signature : String) : ContentConnection :=
  { connection with
    contentHighSeq := max connection.contentHighSeq seq
    seenContentSeqs := forgetBelow (max connection.contentHighSeq seq - contentReplayWindow : Int)
      (connection.seenContentSeqs.set seq signature) }

/-- What one pair does: nothing when it is refused or repeats a taken one, else it is recorded
and the map is pruned. -/
theorem remember_cases (connection : ContentConnection) (pair : ContentPair) :
    (connection.takes pair = false ∧ connection.remember pair = connection) ∨
    (connection.takes pair = true ∧ connection.remember pair = connection ∧
      ∃ seq, contentSequence pair.nonce = some seq ∧ connection.seenContentSeqs.get seq = some pair.signature) ∨
    (connection.takes pair = true ∧ ∃ seq, contentSequence pair.nonce = some seq ∧
      connection.contentHighSeq < seq + contentReplayWindow ∧
      connection.remember pair = recorded connection seq pair.signature) := by
  unfold ContentConnection.takes ContentConnection.remember ContentConnection.rememberContentNonce
  cases number : contentSequence pair.nonce with
  | none => exact .inl ⟨rfl, rfl⟩
  | some seq =>
    by_cases stale : (seq : Int) ≤ connection.contentHighSeq - contentReplayWindow
    · left
      simp [stale]
    · simp only [stale, if_false]
      cases found : (connection.seenContentSeqs.get seq).filter (· ≠ "") with
      | some previous =>
        by_cases same : previous = pair.signature
        · right
          left
          rw [Option.filter_eq_some_iff] at found
          exact ⟨by simpa using same, rfl, seq, rfl, same ▸ found.1⟩
        · left
          exact ⟨by simpa using same, rfl⟩
      | none =>
        right
        right
        have highest : (if seq > connection.contentHighSeq then seq else connection.contentHighSeq) =
            max connection.contentHighSeq seq := by
          split <;> omega
        refine ⟨rfl, seq, rfl, by omega, ?_⟩
        simp only [highest, recorded]

section Run

variable {connection : ContentConnection} {taken : List ContentPair} {pair : ContentPair} {seq : Nat}

theorem numbersOf_append (taken : List ContentPair) (pair : ContentPair) {seq : Nat}
    (number : contentSequence pair.nonce = some seq) : numbersOf (taken ++ [pair]) = insert seq (numbersOf taken) := by
  ext n
  simp only [numbersOf, List.mem_append, List.mem_singleton, Set.mem_ofPred_eq, Set.mem_insert_iff]
  constructor
  · rintro ⟨other, member | rfl, number'⟩
    · exact .inr ⟨other, member, number'⟩
    · rw [number, Option.some.injEq] at number'
      exact .inl number'.symm
  · rintro (rfl | ⟨other, member, number'⟩)
    · exact ⟨pair, .inr rfl, number⟩
    · exact ⟨other, .inl member, number'⟩

theorem get_recorded (connection : ContentConnection) (seq n : Nat) (signature : String) :
    (recorded connection seq signature).seenContentSeqs.get n =
      if max connection.contentHighSeq seq < n + contentReplayWindow then
        if n = seq then some signature else connection.seenContentSeqs.get n
      else none := by
  simp only [recorded, get_forgetBelow, InsertionMap.get_set]
  by_cases inside : max connection.contentHighSeq seq < n + contentReplayWindow
  · have kept : ¬ (n : Int) ≤ max connection.contentHighSeq seq - contentReplayWindow := by omega
    rw [if_neg kept, if_pos inside]
  · have low : (n : Int) ≤ max connection.contentHighSeq seq - contentReplayWindow := by omega
    rw [if_pos low, if_neg inside]

/-- A recorded pair is one more taken number of the window. -/
theorem window_recorded (connection : ContentConnection) (seq : Nat) (signature : String) :
    (recorded connection seq signature).window = connection.window.take contentReplayWindow seq := by
  have used : (recorded connection seq signature).window.used =
      (connection.window.take contentReplayWindow seq).used := by
    ext n
    have kept : n ∈ (recorded connection seq signature).window.used ↔
        max connection.contentHighSeq seq < n + contentReplayWindow ∧ (n = seq ∨ n ∈ connection.window.used) := by
      rw [mem_window_used, get_recorded, mem_window_used]
      by_cases inside : max connection.contentHighSeq seq < n + contentReplayWindow
      · by_cases same : n = seq <;> simp [inside, same]
      · simp [inside]
    rw [kept, ReplayWindow.take, Finset.mem_filter, Finset.mem_insert]
    exact And.comm
  exact congrArg (ReplayWindow.mk _) used

theorem Remembers.recorded (remembers : Remembers connection taken) (number : contentSequence pair.nonce = some seq)
    (rule : Takes taken pair) : Remembers (recorded connection seq pair.signature) (taken ++ [pair]) where
  tracks := by
    rw [window_recorded, numbersOf_append taken pair number]
    exact remembers.tracks.take seq
  signed n signature found := by
    rw [get_recorded] at found
    split_ifs at found with inside same
    · cases found
      exact ⟨pair, List.mem_append_right _ List.mem_cons_self, by rw [number, same], rfl⟩
    · obtain ⟨other, member, number', signature'⟩ := remembers.signed n signature found
      exact ⟨other, List.mem_append_left _ member, number', signature'⟩
  one := by
    obtain ⟨seq', number', -, agree⟩ := rule
    have like_pair : ∀ other ∈ taken, contentSequence other.nonce = contentSequence pair.nonce →
        other.signature = pair.signature := fun other member same => agree other member (same.trans number')
    intro one member other member' same
    rw [List.mem_append, List.mem_singleton] at member member'
    rcases member with old | rfl
    · rcases member' with old' | rfl
      · exact remembers.one one old other old' same
      · exact like_pair one old same
    · rcases member' with old' | rfl
      · exact (like_pair other old' same.symm).symm
      · rfl

/-- A repeat adds nothing to what is remembered. -/
theorem Remembers.repeated (remembers : Remembers connection taken) (number : contentSequence pair.nonce = some seq)
    (held : connection.seenContentSeqs.get seq = some pair.signature) : Remembers connection (taken ++ [pair]) := by
  obtain ⟨known, member, number', signature⟩ := remembers.signed seq _ held
  have numbers : numbersOf (taken ++ [pair]) = numbersOf taken := by
    rw [numbersOf_append taken pair number]
    exact Set.insert_eq_of_mem ⟨known, member, number'⟩
  have stands_in : ∀ one ∈ taken ++ [pair], ∃ old ∈ taken, contentSequence old.nonce = contentSequence one.nonce ∧
      old.signature = one.signature := by
    intro one there
    rw [List.mem_append, List.mem_singleton] at there
    rcases there with old | rfl
    · exact ⟨one, old, rfl, rfl⟩
    · exact ⟨known, member, number'.trans number.symm, signature⟩
  refine ⟨numbers ▸ remembers.tracks, fun n signature found => ?_, fun one there other there' same => ?_⟩
  · obtain ⟨old, member, rest⟩ := remembers.signed n signature found
    exact ⟨old, List.mem_append_left _ member, rest⟩
  · obtain ⟨old, old_member, number_one, signature_one⟩ := stands_in one there
    obtain ⟨old', old_member', number_other, signature_other⟩ := stands_in other there'
    rw [← signature_one, ← signature_other]
    exact remembers.one old old_member old' old_member' (number_one.trans (same.trans number_other.symm))

theorem Remembers.step (remembers : Remembers connection taken) (pair : ContentPair) :
    Remembers (connection.remember pair) (if connection.takes pair then taken ++ [pair] else taken) := by
  rcases remember_cases connection pair with ⟨refused, same⟩ | ⟨takes, same, seq, number, held⟩ |
    ⟨takes, seq, number, -, fresh⟩
  · simpa [refused, same] using remembers
  · simpa [takes, same] using remembers.repeated number held
  · simpa [takes, fresh] using remembers.recorded number (remembers.takes_iff.mp takes)

theorem Remembers.run (remembers : Remembers connection taken) (pairs : List ContentPair) :
    Remembers (pairs.foldl ContentConnection.remember connection) (taken ++ connection.taken pairs) := by
  induction pairs generalizing connection taken with
  | nil => simpa [ContentConnection.taken] using remembers
  | cons pair rest ih =>
    have next := ih (remembers.step pair)
    rw [List.foldl_cons, ContentConnection.taken]
    split at next <;> rename_i decided
    · simpa [decided] using next
    · simpa [decided] using next

theorem taken_append (connection : ContentConnection) (pairs later : List ContentPair) :
    connection.taken (pairs ++ later) =
      connection.taken pairs ++ (pairs.foldl ContentConnection.remember connection).taken later := by
  induction pairs generalizing connection with
  | nil => rfl
  | cons pair rest ih =>
    simp only [List.cons_append, ContentConnection.taken, List.foldl_cons, ih]
    split <;> rfl

theorem number_of_taken {pairs : List ContentPair} (member : pair ∈ connection.taken pairs) :
    ∃ seq, contentSequence pair.nonce = some seq := by
  induction pairs generalizing connection with
  | nil => cases member
  | cons first rest ih =>
    rw [ContentConnection.taken] at member
    split at member
    · rename_i takes
      rcases List.mem_cons.mp member with rfl | later
      · rcases remember_cases connection pair with ⟨refused, -⟩ | ⟨-, -, seq, number, -⟩ | ⟨-, seq, number, -⟩
        · rw [refused] at takes
          cases takes
        · exact ⟨seq, number⟩
        · exact ⟨seq, number⟩
      · exact ih later
    · exact ih member

/-- A taken pair has the number that its nonce spells. -/
theorem contentSequence_of_taken {pairs : List ContentPair} (member : pair ∈ connection.taken pairs)
    (spelled : pair.nonce = seq.repr) : contentSequence pair.nonce = some seq := by
  obtain ⟨number, reads⟩ := number_of_taken member
  have same := (contentSequence_eq_some_iff.mp reads).1
  rw [spelled] at same
  rw [reads, Nat.repr_injective same]

/-- The rule, told of nonces. -/
theorem takes_spelled {pairs : List ContentPair} : Takes (connection.taken pairs) pair ↔
    ∃ seq : Nat, pair.nonce = seq.repr ∧ 0 < seq ∧ seq ≤ maxSafeInteger ∧
      (∀ other ∈ connection.taken pairs, ∀ m : Nat, other.nonce = m.repr → (m : Int) - contentReplayWindow < seq) ∧
      ∀ other ∈ connection.taken pairs, other.nonce = pair.nonce → other.signature = pair.signature := by
  constructor
  · rintro ⟨seq, number, above, agree⟩
    obtain ⟨spelled, positive, safe⟩ := contentSequence_eq_some_iff.mp number
    refine ⟨seq, spelled, positive, safe, fun other member m spelled' => ?_, fun other member same => ?_⟩
    · have low := above m ⟨other, member, contentSequence_of_taken member spelled'⟩
      omega
    · exact agree other member (same ▸ number)
  · rintro ⟨seq, spelled, positive, safe, above, agree⟩
    refine ⟨seq, contentSequence_eq_some_iff.mpr ⟨spelled, positive, safe⟩, ?_, fun other member number => ?_⟩
    · rintro m ⟨other, member, number⟩
      have high := above other member m (contentSequence_eq_some_iff.mp number).1
      omega
    · exact agree other member ((contentSequence_eq_some_iff.mp number).1.trans spelled.symm)

end Run

end Rule

/-- Within one hello the phone takes a pair exactly where the whole history of taken pairs allows
it; a number has one content, and what fell out of the window stays out. -/
theorem one_content_per_number (connection : ContentConnection) (helloNonce deviceId : String)
    (pairs : List ContentPair) :
    let session := connection.sendRelayHello helloNonce deviceId
    let taken := session.taken pairs
    (∀ pair : ContentPair,
      ((pairs.foldl ContentConnection.remember session).rememberContentNonce pair.nonce pair.signature).1 = true ↔
        ∃ seq : Nat, pair.nonce = seq.repr ∧ 0 < seq ∧ seq ≤ maxSafeInteger ∧
          (∀ other ∈ taken, ∀ m : Nat, other.nonce = m.repr → (m : Int) - contentReplayWindow < seq) ∧
          ∀ other ∈ taken, other.nonce = pair.nonce → other.signature = pair.signature) ∧
    (∀ pair ∈ taken, ∀ other ∈ taken, pair.nonce = other.nonce → pair.signature = other.signature) ∧
    ∀ pair ∈ taken, ∀ other ∈ taken, ∀ seq m : Nat, pair.nonce = seq.repr → other.nonce = m.repr →
      (seq : Int) ≤ m - contentReplayWindow → ∀ later : List ContentPair,
        (((pairs ++ later).foldl ContentConnection.remember session).rememberContentNonce pair.nonce pair.signature).1 =
          false := by
  intro session taken
  have remembers : ∀ pairs, Remembers (pairs.foldl ContentConnection.remember session) (session.taken pairs) :=
    fun pairs => (remembers_sendRelayHello helloNonce deviceId).run pairs
  refine ⟨fun pair => (remembers pairs).takes_iff.trans takes_spelled, ?_, ?_⟩
  · intro pair member other member' same
    exact (remembers pairs).one pair member other member' (congrArg contentSequence same)
  · intro pair member other member' seq m spelled spelled' fallen later
    rw [Bool.eq_false_iff]
    intro takes
    obtain ⟨seq', number, above, -⟩ := (remembers (pairs ++ later)).takes_iff.mp takes
    rw [contentSequence_of_taken member spelled, Option.some.injEq] at number
    have still : other ∈ session.taken (pairs ++ later) := by
      rw [taken_append]
      exact List.mem_append_left _ member'
    have low := above m ⟨other, still, contentSequence_of_taken member' spelled'⟩
    omega

end Sealwire.Remote
