import Sealwire.Hydration.Invariant
import Sealwire.Lib.Text
import Sealwire.Snapshot.HonestRows
import Sealwire.Transcript.Runtime

namespace Sealwire.Hydration

open Snapshot (InjectionView RowHonest)
open Transcript (TranscriptEntryKind TranscriptMutationMeta)

/-- A number of the relay, as the frontend reads it. -/
def safeInteger (n : UInt64) : Option Nat := if n.toNat < 2 ^ 53 then some n.toNat else none

def safeSigned (n : Int) : Option Int := if n.natAbs < 2 ^ 53 then some n else none

/-- How a kind is spelled in a payload. -/
def kindName : TranscriptEntryKind → String
  | .userText => "user_text"
  | .agentText => "agent_text"
  | .toolCall => "tool_call"
  | .command => "command"
  | .reasoning => "reasoning"
  | .error => "error"

/-- A row of the relay, as the frontend reads it. -/
def sentEntry (row : Snapshot.TranscriptEntryView) : Entry InjectionView where
  rowId := row.rowId
  itemId := row.itemId
  kind := kindName row.kind
  text := row.text.map utf16
  status := row.status
  turnId := row.turnId
  tool := row.tool
  contentState := row.contentState
  entrySeq := none
  orderSeq := row.orderSeq.bind safeSigned
  withdrawn := row.withdrawn
  injection := row.injection

/-- `local_transcript_delta`, and the fields of the broker's `transcript_delta`. -/
def localTranscriptDelta (threadId generation : String) (mutation : TranscriptMutationMeta) (deltaKind : String)
    (turnId : Option String) (delta : String) : TranscriptDelta where
  rowId := some mutation.rowId
  itemId := some mutation.rowId
  threadId := some threadId
  delta := utf16 delta
  deltaKind := some deltaKind
  textOffset := mutation.textOffset.bind safeInteger
  turnId := turnId
  entrySeq := (safeInteger mutation.entrySeq).map Int.ofNat
  orderSeq := safeSigned mutation.orderSeq
  revision := safeInteger mutation.revision
  baseRevision := safeInteger mutation.baseRevision
  transcriptGeneration := some generation

/-- The units of a text are counted modulo the word. -/
theorem toNat_utf16Count (s : String) : (utf16Count s).toNat = (utf16 s).length % 2 ^ 64 := by
  have counts (l : List Char) (start : Nat) :
      l.foldl (fun count c => if c.toNat < 0x10000 then count + 1 else count + 2) start =
        start + (l.flatMap utf16Units).length := by
    induction l generalizing start with
    | nil => rfl
    | cons c rest ih =>
      rw [List.foldl_cons, ih, List.flatMap_cons, List.length_append]
      unfold utf16Units
      by_cases short : c.toNat < 0x10000
      · rw [if_pos short, if_pos short]
        simp only [List.length_singleton]
        omega
      · rw [if_neg short, if_neg short]
        simp only [List.length_cons, List.length_nil]
        omega
  unfold utf16Count utf16
  rw [counts, Nat.zero_add, UInt64.toNat_ofNat']

/-- A copy of the row that the relay sent when the row had one of these texts: the whole row, or a cut of it. -/
def RelayCopy (kind : TranscriptEntryKind) (texts : List String) (entry : Entry InjectionView) : Prop :=
  ∃ row sent : Snapshot.TranscriptEntryView,
    row.text.getD "" ∈ texts ∧ row.kind = kind ∧ RowHonest row sent ∧ entry = sentEntry sent

/-- A full copy has a text the row had, or a card that says it was cut. -/
theorem RelayCopy.whole_or_clipped {kind : TranscriptEntryKind} {texts : List String} {entry : Entry InjectionView}
    (copy : RelayCopy kind texts entry) (has_body : kind ≠ .reasoning)
    (unreplaced : ∀ mark : InjectionView, mark.drawsRow kind ≠ some .replaced) (full : entry.contentState = .full) :
    (∀ t ∈ entry.text, ∃ text ∈ texts, t = utf16 text) ∨
      ∃ mark, entry.injection = some mark ∧ mark.drawsRow kind = some .textBody ∧ mark.textClipped = true := by
  obtain ⟨row, sent, was, is_kind, honest, rfl⟩ := copy
  have own (same : sent.text = row.text) : ∀ t ∈ (sentEntry sent).text, ∃ text ∈ texts, t = utf16 text := by
    intro t at_text
    obtain ⟨text, is_text, rfl⟩ := Option.map_eq_some_iff.mp at_text
    rw [same] at is_text
    rw [is_text] at was
    exact ⟨text, was, rfl⟩
  rcases honest.body full with ⟨text, -⟩ | ⟨settled, -⟩ | ⟨shown, drawn, kept⟩
  · exact .inl (own text)
  · simp only [Snapshot.isSettledEmptyReasoning, Bool.and_eq_true, decide_eq_true_eq] at settled
    exact absurd (is_kind.symm.trans settled.1.1.1) has_body
  · have now_drawn := honest.drawn.trans drawn
    obtain ⟨mark, marked, draws⟩ := Option.bind_eq_some_iff.mp now_drawn
    rw [honest.kind, is_kind] at draws
    cases shown with
    | replaced => exact absurd draws (unreplaced mark)
    | textBody =>
      rcases kept rfl with text | clipped
      · exact .inl (own text)
      · rw [Snapshot.TranscriptEntryView.textIsClipped, marked] at clipped
        exact .inr ⟨mark, marked, draws, clipped⟩

theorem drawsRow_agentText (mark : InjectionView) : mark.drawsRow .agentText ≠ some .replaced := by
  obtain ⟨kind, card, clipped⟩ := mark
  cases kind <;> simp [InjectionView.drawsRow]

theorem drawsRow_command (mark : InjectionView) : mark.drawsRow .command = none := by
  obtain ⟨kind, card, clipped⟩ := mark
  cases kind <;> rfl

/-- Cards that are not combined. -/
def plainCards : CardBodies InjectionView where
  combineCardBodies card _ := card
  textClipped card := card.textClipped
  withTextClipped card clipped := { card with textClipped := clipped }
  stringifyInjection _ := "null"
  stringifyTool _ := "null"

def plainRow (kind : TranscriptEntryKind) (rowId text : String) : Snapshot.TranscriptEntryView where
  rowId := some rowId
  itemId := some rowId
  orderSeq := some 0
  withdrawn := false
  kind := kind
  text := some text
  status := "streaming"
  turnId := some "turn"
  tool := none
  contentState := .full
  injection := none

/-- A window that holds one other row. -/
def openWindow : HydrationState InjectionView :=
  { HydrationState.fresh with
    entries := InsertionMap.empty.set "first" (sentEntry (plainRow .agentText "first" "hello"))
    order := ["first"]
    threadId := some "thread"
    generation := some "run"
    keyed := false }

theorem openWindow_ok : openWindow.WindowOk := by
  have holds (key : String) : openWindow.entries.has key = true ↔ key = "first" := by
    show (InsertionMap.empty.set "first" _).has key = true ↔ _
    rw [InsertionMap.has_set]
    simp [InsertionMap.has]
  refine ⟨⟨by decide, fun key => ?_, fun key held => ?_⟩, fun keyed => (by cases keyed)⟩
  · rw [holds]
    exact List.mem_singleton
  · rw [(holds key).mp held]
    decide

end Sealwire.Hydration
