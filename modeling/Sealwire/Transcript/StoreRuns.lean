import Sealwire.Transcript.StoreInvariant

namespace Sealwire.Transcript

/-- The mutators of the store, with the closures they are given. -/
inductive StoreCall : Type 1
  | push (record : TranscriptRecord)
  | bindProviderItemId (rowId providerItemId : String)
  | bindRelayItemId (rowId relayItemId : String)
  | updateRow {R : Type} (rowId : String) (edit : TranscriptRecord → TranscriptRecord × R)
  | updateAll {S : Type} (edit : S → TranscriptRecord → TranscriptRecord × S) (state : S)
  | insertBefore (index : Nat) (records : List TranscriptRecord)
  | clear

def StoreCall.run (t : ThreadTranscript) : StoreCall → Option ThreadTranscript
  | .push record => (t.push record).map Prod.fst
  | .bindProviderItemId rowId providerItemId => some (t.bindProviderItemId rowId providerItemId).1
  | .bindRelayItemId rowId relayItemId => some (t.bindRelayItemId rowId relayItemId).1
  | .updateRow rowId edit => some (t.updateRow rowId edit).1
  | .updateAll edit state => some (t.updateAll edit state)
  | .insertBefore index records => (t.insertBefore index records).map Prod.fst
  | .clear => some t.clear

inductive StoreRun (first : ThreadTranscript) : ThreadTranscript → Prop
  | start : StoreRun first first
  | next {t u : ThreadTranscript} (run : StoreRun first t) {c : StoreCall} (step : c.run t = some u) : StoreRun first u

theorem StoreCall.run_consistent {t u : ThreadTranscript} (ok : t.Consistent) {c : StoreCall}
    (step : c.run t = some u) : u.Consistent := by
  cases c with
  | push record =>
    obtain ⟨⟨u', id⟩, pushed, rfl⟩ := Option.map_eq_some_iff.mp step
    exact ThreadTranscript.push_consistent ok pushed
  | bindProviderItemId rowId providerItemId =>
    obtain rfl := Option.some.inj step
    exact ThreadTranscript.bindName_consistent ok .provider rowId providerItemId
  | bindRelayItemId rowId relayItemId =>
    obtain rfl := Option.some.inj step
    exact ThreadTranscript.bindName_consistent ok .relay rowId relayItemId
  | updateRow rowId edit =>
    obtain rfl := Option.some.inj step
    exact (ThreadTranscript.updateRow_consistent ok rowId edit).2
  | updateAll edit state =>
    obtain rfl := Option.some.inj step
    exact (ThreadTranscript.updateAll_consistent ok edit state).2
  | insertBefore index records =>
    obtain ⟨⟨u', ids⟩, inserted, rfl⟩ := Option.map_eq_some_iff.mp step
    exact (ThreadTranscript.insertBefore_consistent ok inserted).1
  | clear =>
    obtain rfl := Option.some.inj step
    exact t.clear_consistent

/-- Only `clear` removes a row, renames it, moves its key or takes a withdrawal back. -/
theorem StoreCall.run_keeps {t u : ThreadTranscript} (ok : t.Consistent) {c : StoreCall} (step : c.run t = some u)
    (kept : c ≠ .clear) {row : TranscriptRecord} (member : row ∈ t.rows) :
    ∃ next ∈ u.rows, ThreadTranscript.RowKept row next := by
  cases c with
  | push record =>
    obtain ⟨⟨u', id⟩, pushed, rfl⟩ := Option.map_eq_some_iff.mp step
    exact ⟨row, by simp [ThreadTranscript.push_rows ok pushed, member], .refl row⟩
  | bindProviderItemId rowId providerItemId =>
    obtain rfl := Option.some.inj step
    exact ThreadTranscript.forall₂_member (ThreadTranscript.bindName_shape ok .provider rowId providerItemId).rows member
  | bindRelayItemId rowId relayItemId =>
    obtain rfl := Option.some.inj step
    exact ThreadTranscript.forall₂_member (ThreadTranscript.bindName_shape ok .relay rowId relayItemId).rows member
  | updateRow rowId edit =>
    obtain rfl := Option.some.inj step
    exact ThreadTranscript.forall₂_member (ThreadTranscript.updateRow_consistent ok rowId edit).1.rows member
  | updateAll edit state =>
    obtain rfl := Option.some.inj step
    exact ThreadTranscript.forall₂_member (ThreadTranscript.updateAll_consistent ok edit state).1 member
  | insertBefore index records =>
    obtain ⟨⟨u', ids⟩, inserted, rfl⟩ := Option.map_eq_some_iff.mp step
    obtain ⟨-, -, rows⟩ := ThreadTranscript.insertBefore_consistent ok inserted
    refine ⟨row, ?_, .refl row⟩
    rw [← List.take_append_drop index t.rows, List.mem_append] at member
    rw [rows, List.mem_append, List.mem_append]
    exact member.elim (fun before => .inl (.inl before)) .inr
  | clear => exact absurd rfl kept

theorem pushAll_consistent {t u : ThreadTranscript} (ok : t.Consistent) {records : List TranscriptRecord}
    (pushed : t.pushAll records = some u) : u.Consistent := by
  induction records generalizing t with
  | nil =>
    obtain rfl := Option.some.inj pushed
    exact ok
  | cons record rest ih =>
    obtain ⟨middle, first, remaining⟩ := Option.bind_eq_some_iff.mp pushed
    obtain ⟨⟨u', id⟩, landed, rfl⟩ := Option.map_eq_some_iff.mp first
    exact ih (ThreadTranscript.push_consistent ok landed) remaining

theorem StoreRun.consistent {first t : ThreadTranscript} (ok : first.Consistent) (run : StoreRun first t) :
    t.Consistent := by
  induction run with
  | start => exact ok
  | next _ step ih => exact StoreCall.run_consistent ih step

/-- The store's invariant over its whole life, from an empty store or from given rows. -/
theorem store_stays_consistent {first t : ThreadTranscript}
    (start : first = ThreadTranscript.new ∨ ∃ rows, ThreadTranscript.fromRows rows = some first)
    (run : StoreRun first t) :
    t.Consistent ∧
    (∀ (c : StoreCall) (u : ThreadTranscript), c.run t = some u → c ≠ .clear →
      ∀ row ∈ t.rows, ∃ next ∈ u.rows, ThreadTranscript.RowKept row next) ∧
    (∀ record u id, t.push record = some (u, id) → u.rows = t.rows ++ [{ record with rowId := id }]) ∧
    (∀ index records u ids, t.insertBefore index records = some (u, ids) → ids.length = records.length ∧
      u.rows = t.rows.take index ++ List.zipWith (fun record id => { record with rowId := id }) records ids ++
        t.rows.drop index) := by
  have first_ok : first.Consistent := by
    rcases start with rfl | ⟨rows, built⟩
    · exact ThreadTranscript.new_consistent
    · exact pushAll_consistent ThreadTranscript.new_consistent built
  have ok := run.consistent first_ok
  refine ⟨ok, ?_, ?_, ?_⟩
  · intro c u step kept row member
    exact StoreCall.run_keeps ok step kept member
  · intro record u id pushed
    exact ThreadTranscript.push_rows ok pushed
  · intro index records u ids inserted
    exact (ThreadTranscript.insertBefore_consistent ok inserted).2

def plainRecord (rowId : String) (providerItemId relayItemId : Option String) : TranscriptRecord where
  rowId := rowId
  providerItemId := providerItemId
  relayItemId := relayItemId
  kind := .agentText
  text := none
  status := "completed"
  turnId := none
  tool := none
  orderSeq := 0
  withdrawn := false
  lastLiveUpsertRevision := none
  cut := false

/-- Three rows that arrive under one id are three rows. -/
theorem colliding_rows_stay_apart :
    ∃ first t, ThreadTranscript.fromRows [plainRecord "x" (some "x") none, plainRecord "x" none (some "x")] = some first ∧
      StoreCall.run first (.insertBefore 0 [plainRecord "x" none none]) = some t ∧ t.Consistent ∧
      t.rows.map (·.rowId) = ["x#row2", "x", "x#row1"] := by
  obtain ⟨first, built, t, step, ids⟩ : ∃ first,
      ThreadTranscript.fromRows [plainRecord "x" (some "x") none, plainRecord "x" none (some "x")] = some first ∧
      ∃ t, StoreCall.run first (.insertBefore 0 [plainRecord "x" none none]) = some t ∧
        t.rows.map (·.rowId) = ["x#row2", "x", "x#row1"] := ⟨_, rfl, _, rfl, rfl⟩
  exact ⟨first, t, built, step, (store_stays_consistent (.inr ⟨_, built⟩) (.next .start step)).1, ids⟩

end Sealwire.Transcript
