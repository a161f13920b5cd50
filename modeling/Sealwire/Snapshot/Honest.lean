import Sealwire.Snapshot.HonestRows

namespace Sealwire.Snapshot

/-- Rows kept from `dropped` on, each honest. -/
def RowsHonest (input rows : List TranscriptEntryView) (dropped : Nat) : Prop :=
  List.Forall₂ RowHonest (input.drop dropped) rows

theorem RowsHonest.map {input rows : List TranscriptEntryView} {dropped : Nat} (honest : RowsHonest input rows dropped)
    {edit : TranscriptEntryView → TranscriptEntryView}
    (each : ∀ before row, RowHonest before row → RowHonest before (edit row)) :
    RowsHonest input (rows.map edit) dropped := by
  unfold RowsHonest at *
  generalize input.drop dropped = kept at *
  induction honest with
  | nil => exact .nil
  | cons head _ ih => exact .cons (each _ _ head) ih

theorem RowsHonest.refl (input : List TranscriptEntryView) (dropped : Nat) :
    RowsHonest input (input.drop dropped) dropped := by
  unfold RowsHonest
  generalize input.drop dropped = kept
  induction kept with
  | nil => exact .nil
  | cons head rest ih => exact .cons (.refl head) ih

theorem RowsHonest.tail {input rows : List TranscriptEntryView} {dropped : Nat} (honest : RowsHonest input rows dropped) :
    RowsHonest input rows.tail (dropped + 1) := by
  unfold RowsHonest at *
  rw [← List.tail_drop]
  generalize input.drop dropped = kept at *
  cases honest with
  | nil => exact .nil
  | cons _ rest => exact rest

/-- What is left to reclaim. -/
def weight (budget : SessionSnapshotCompactBudget) (s : SessionSnapshot) : Nat :=
  s.reviewerThreads.length + s.activeWorkflowRuns.length + s.activeReviewJobs.length + s.deviceRecords.length +
    s.pairedDevices.length + s.pendingPairingRequests.length + s.transcript.length + s.logs.length +
    (s.transcript.any (rowIsLong budget)).toNat +
    (s.logs.any fun entry => budget.fallbackLogChars < entry.message.length).toNat +
    s.pendingAskUserQuestions.countP questionsAreInline

theorem any_mono {α : Type} {p : α → Bool} {l m : List α} (kept : l ⊆ m) : (l.any p).toNat ≤ (m.any p).toNat := by
  cases found : l.any p with
  | false => exact Nat.zero_le _
  | true =>
    obtain ⟨x, member, holds⟩ := List.any_eq_true.mp found
    rw [List.any_eq_true.mpr ⟨x, kept member, holds⟩]

theorem length_dropLast_lt {α : Type} {l : List α} (some_element : l ≠ []) : l.dropLast.length < l.length := by
  have positive := List.length_pos_iff.mpr some_element
  rw [List.length_dropLast]
  omega

theorem shrinkRow_short (budget : SessionSnapshotCompactBudget) (row : TranscriptEntryView) :
    rowIsLong budget (shrinkRow budget row).1 = false := by
  obtain ⟨text, tool⟩ := row.withCut_body (truncateField row.text budget.fallbackTranscriptChars)
    (row.tool.map (shrinkTool budget))
  unfold rowIsLong shrinkRow
  rw [text, tool, truncateField_short]
  cases row.tool with
  | none => rfl
  | some tool => exact shrinkTool_short budget tool

theorem countP_modify_lt {α : Type} {p : α → Bool} {f : α → α} {l : List α} {i : Nat} {x : α} (at_i : l[i]? = some x)
    (counted : p x = true) (no_more : p (f x) = false) : (l.modify i f).countP p < l.countP p := by
  induction l generalizing i with
  | nil => simp at at_i
  | cons y rest ih =>
    cases i with
    | zero =>
      obtain rfl := Option.some.inj at_i
      simp [List.modify_cons, counted, no_more]
    | succ i =>
      have smaller := ih (by simpa using at_i)
      simp only [List.modify_succ_cons, List.countP_cons]
      omega

theorem largestInline_inline {json : SnapshotJson} {requests : List (AskUserQuestionRequestView × Nat)}
    {largest : Option Nat} {index : Nat} (found : largestInline json requests largest = some index) :
    ∃ request, (request, index) ∈ requests ∧ questionsAreInline request = true := by
  induction requests generalizing largest with
  | nil => cases found
  | cons first rest ih =>
    obtain ⟨request, here⟩ := first
    unfold largestInline at found
    split at found
    · rename_i larger
      rcases Option.or_eq_some_iff.mp found with later | ⟨-, this⟩
      · obtain ⟨other, member, inline⟩ := ih later
        exact ⟨other, List.mem_cons_of_mem _ member, inline⟩
      · obtain rfl := Option.some.inj this
        rw [Bool.and_eq_true] at larger
        exact ⟨request, List.mem_cons_self, larger.1⟩
    · obtain ⟨other, member, inline⟩ := ih found
      exact ⟨other, List.mem_cons_of_mem _ member, inline⟩

theorem externalize_lt {json : SnapshotJson} {requests next : List AskUserQuestionRequestView}
    (externalized : externalizeLargestPendingAskUserQuestion json requests = some next) :
    next.countP questionsAreInline < requests.countP questionsAreInline := by
  obtain ⟨index, found, rfl⟩ := Option.map_eq_some_iff.mp externalized
  obtain ⟨request, member, inline⟩ := largestInline_inline found
  have at_index := List.mem_zipIdx_iff_getElem?.mp member
  exact countP_modify_lt at_index inline rfl

theorem reclaimChannels_cases (budget : SessionSnapshotCompactBudget) {s t : SessionSnapshot}
    (reclaimed : reclaimChannels s = some t) :
    weight budget t < weight budget s ∧ t.transcriptTruncated = s.transcriptTruncated ∧
      t.providerStatus = s.providerStatus ∧ t.logs = s.logs ∧ t.transcript = s.transcript := by
  unfold reclaimChannels at reclaimed
  split at reclaimed
  · rename_i some_left
    obtain rfl := Option.some.inj reclaimed
    have fewer := length_dropLast_lt some_left
    exact ⟨by simp only [weight]; omega, rfl, rfl, rfl, rfl⟩
  split at reclaimed
  · rename_i some_left
    obtain rfl := Option.some.inj reclaimed
    have fewer := length_dropLast_lt some_left
    exact ⟨by simp only [weight]; omega, rfl, rfl, rfl, rfl⟩
  split at reclaimed
  · rename_i some_left
    obtain rfl := Option.some.inj reclaimed
    have fewer := length_dropLast_lt some_left
    exact ⟨by simp only [weight]; omega, rfl, rfl, rfl, rfl⟩
  split at reclaimed
  · rename_i some_left
    obtain rfl := Option.some.inj reclaimed
    have fewer := length_dropLast_lt some_left
    exact ⟨by simp only [weight]; omega, rfl, rfl, rfl, rfl⟩
  split at reclaimed
  · rename_i some_left
    obtain rfl := Option.some.inj reclaimed
    have fewer := length_dropLast_lt some_left
    exact ⟨by simp only [weight]; omega, rfl, rfl, rfl, rfl⟩
  split at reclaimed
  · rename_i some_left
    obtain rfl := Option.some.inj reclaimed
    have fewer := length_dropLast_lt some_left
    exact ⟨by simp only [weight]; omega, rfl, rfl, rfl, rfl⟩
  · cases reclaimed

/-- What one round did to the rows. -/
def RowsReclaimed (budget : SessionSnapshotCompactBudget) (c d : Compaction) : Prop :=
  d.snapshot.transcript = c.snapshot.transcript ∧ d.truncated = c.truncated ∨
    budget.minTranscriptEntriesBeforeTextShrink < c.snapshot.transcript.length ∧
      d.snapshot.transcript = c.snapshot.transcript.tail ∧ d.truncated = true ∨
    d.snapshot.transcript = (c.snapshot.transcript.map (shrinkRow budget)).map Prod.fst ∧
      d.truncated = (c.truncated || (c.snapshot.transcript.map (shrinkRow budget)).any Prod.snd)

/-- What one round does: it takes something away, and tells what it did to the rows. -/
structure Reclaimed (budget : SessionSnapshotCompactBudget) (c d : Compaction) : Prop where
  smaller : weight budget d.snapshot < weight budget c.snapshot
  flag : d.snapshot.transcriptTruncated = c.snapshot.transcriptTruncated
  providerStatus : d.snapshot.providerStatus = c.snapshot.providerStatus
  logs : ∀ log ∈ d.snapshot.logs, ∃ old ∈ c.snapshot.logs, log.remoteSafe = old.remoteSafe
  rows : RowsReclaimed budget c d

theorem reclaim_cases {json : SnapshotJson} {budget : SessionSnapshotCompactBudget} {c d : Compaction}
    (reclaimed : reclaim json budget c = some d) : Reclaimed budget c d := by
  obtain ⟨s, truncated⟩ := c
  have same_logs : ∀ log ∈ s.logs, ∃ old ∈ s.logs, log.remoteSafe = old.remoteSafe :=
    fun log member => ⟨log, member, rfl⟩
  unfold reclaim at reclaimed
  split at reclaimed
  · rename_i t channels
    obtain rfl := Option.some.inj reclaimed
    obtain ⟨smaller, flag, reasons, logs, rows⟩ := reclaimChannels_cases budget channels
    exact ⟨smaller, flag, reasons, by rw [logs]; exact same_logs, .inl ⟨rows, rfl⟩⟩
  unfold reclaimConversation at reclaimed
  dsimp only at reclaimed
  split at reclaimed
  · rename_i many
    obtain rfl := Option.some.inj reclaimed
    have fewer : s.transcript.tail.length < s.transcript.length := by
      rw [List.length_tail]
      omega
    have still := any_mono (p := rowIsLong budget) (List.tail_subset s.transcript)
    exact ⟨by simp only [weight]; omega, rfl, rfl, same_logs, .inr (.inl ⟨many, rfl, rfl⟩)⟩
  split at reclaimed
  · rename_i many
    obtain rfl := Option.some.inj reclaimed
    have some_left : s.logs ≠ [] := by
      intro empty
      rw [empty] at many
      exact absurd many (Nat.not_lt_zero _)
    have fewer := length_dropLast_lt some_left
    have still := any_mono (p := fun entry : LogEntryView => budget.fallbackLogChars < entry.message.length)
      (List.dropLast_subset s.logs)
    refine ⟨by simp only [weight]; omega, rfl, rfl, ?_, .inl ⟨rfl, rfl⟩⟩
    exact fun log member => same_logs log (List.dropLast_subset _ member)
  split at reclaimed
  · rename_i long
    obtain rfl := Option.some.inj reclaimed
    have length : ((s.transcript.map (shrinkRow budget)).map Prod.fst).length = s.transcript.length := by simp
    have short : ((s.transcript.map (shrinkRow budget)).map Prod.fst).any (rowIsLong budget) = false := by
      simp [shrinkRow_short]
    refine ⟨?_, rfl, rfl, same_logs, .inr (.inr ⟨rfl, rfl⟩)⟩
    simp only [weight, length, short, Bool.toNat_false]
    rw [long, Bool.toNat_true]
    omega
  split at reclaimed
  · rename_i long
    obtain rfl := Option.some.inj reclaimed
    have length : (s.logs.map (clipLog budget.fallbackLogChars)).length = s.logs.length := by simp
    have short : (s.logs.map (clipLog budget.fallbackLogChars)).any
        (fun entry => budget.fallbackLogChars < entry.message.length) = false := by
      refine List.any_eq_false.mpr fun log member => ?_
      obtain ⟨old, -, rfl⟩ := List.mem_map.mp member
      have short : (clipLog budget.fallbackLogChars old).message.length ≤ budget.fallbackLogChars :=
        length_truncateWithEllipsis old.message budget.fallbackLogChars
      simpa using Nat.not_lt.mpr short
    refine ⟨?_, rfl, rfl, ?_, .inl ⟨rfl, rfl⟩⟩
    · simp only [weight, length, short, Bool.toNat_false]
      rw [long, Bool.toNat_true]
      omega
    · intro log member
      obtain ⟨old, there, rfl⟩ := List.mem_map.mp member
      exact ⟨old, there, rfl⟩
  split at reclaimed
  · obtain ⟨requests, externalized, rfl⟩ := Option.map_eq_some_iff.mp reclaimed
    have fewer := externalize_lt externalized
    exact ⟨by simp only [weight]; omega, rfl, rfl, same_logs, .inl ⟨rfl, rfl⟩⟩
  · cases reclaimed

/-- Nothing operator-only is left for a broker-bound snapshot. -/
structure Confidential (s : SessionSnapshot) : Prop where
  logs : ∀ log ∈ s.logs, log.remoteSafe = true
  reasons : ∀ status ∈ s.providerStatus, status.reason = none

theorem Confidential.reclaim {json : SnapshotJson} {budget : SessionSnapshotCompactBudget} {c d : Compaction}
    (confidential : Confidential c.snapshot) (reclaimed : reclaim json budget c = some d) : Confidential d.snapshot where
  logs := by
    intro log member
    obtain ⟨old, there, same⟩ := (reclaim_cases reclaimed).logs log member
    rw [same]
    exact confidential.logs old there
  reasons := by
    rw [(reclaim_cases reclaimed).providerStatus]
    exact confidential.reasons

/-- Where the loop ends: the snapshot fits, or all that was left to reclaim is gone. -/
def Ended (json : SnapshotJson) (budget : SessionSnapshotCompactBudget) (c : Compaction) : Prop :=
  json.snapshotLen c.snapshot ≤ budget.targetBytes ∨
    c.snapshot.logs = [] ∧ ∀ row ∈ c.snapshot.transcript, row.contentState = .omitted ∨ isSettledEmptyReasoning row = true

end Sealwire.Snapshot
