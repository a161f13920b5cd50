import Sealwire.Lib.InsertionMap
import Sealwire.Transcript.Record

namespace Sealwire.Hydration

open Transcript (TranscriptContentState ToolCallView FileChangeDiffView)

/-- A JavaScript string, as its UTF-16 code units. -/
abbrev Text := List UInt16

def utf16Units (c : Char) : Text :=
  if c.toNat < 0x10000 then [UInt16.ofNat c.toNat]
  else [UInt16.ofNat (0xD800 + (c.toNat - 0x10000) / 0x400), UInt16.ofNat (0xDC00 + (c.toNat - 0x10000) % 0x400)]

def utf16 (s : String) : Text := s.toList.flatMap utf16Units

@[simp] theorem utf16_append (s t : String) : utf16 (s ++ t) = utf16 s ++ utf16 t := by
  simp [utf16]

/-- What the window does with the card of an injected prompt, and the JSON texts it compares. -/
structure CardBodies (Card : Type) where
  combineCardBodies : Card → Card → Card
  textClipped : Card → Bool
  withTextClipped : Card → Bool → Card
  stringifyInjection : Option Card → String
  stringifyTool : Option ToolCallView → String

/-- A transcript row, as it is sent or held. A number that is not a safe integer counts as absent. -/
structure Entry (Card : Type) where
  rowId : Option String
  itemId : Option String
  kind : String
  text : Option Text
  status : String
  turnId : Option String
  tool : Option ToolCallView
  contentState : TranscriptContentState
  entrySeq : Option Int
  orderSeq : Option Int
  withdrawn : Bool
  injection : Option Card

variable {Card : Type}

/-- The one name of a row. Every reader takes an empty name for none. -/
def transcriptRowKey (entry : Entry Card) : Option String :=
  (entry.rowId.or entry.itemId).filter (· ≠ "")

/-- `value || null` of a string. -/
def truthy (value : Option String) : Option String := value.filter (· ≠ "")

def contentStateRank : TranscriptContentState → Nat
  | .omitted => 0
  | .preview => 1
  | .full => 2

def rankToContentState (rank : Nat) : TranscriptContentState :=
  if rank = 0 then .omitted else if rank = 1 then .preview else .full

def isFullContent (entry : Entry Card) : Bool := entry.contentState = .full

def terminalEntryStatuses : List String := ["completed", "complete", "failed", "error", "cancelled"]

def isTerminalEntryStatus (status : String) : Bool := status ∈ terminalEntryStatuses

/-- The never-shorten rule. -/
def selectTranscriptText {α : Type} (length : α → Nat) (existing incoming : Option α)
    (existingFull incomingFull : Bool) : Option α :=
  match incoming, existing with
  | none, _ => existing
  | some incomingText, none => some incomingText
  | some incomingText, some existingText =>
    if existingFull && !incomingFull && decide (length incomingText ≤ length existingText) then some existingText
    else if length existingText ≤ length incomingText then some incomingText else some existingText

def stringLength (s : String) : Nat := (utf16 s).length

def mergeFileChange (byPath : InsertionMap String FileChangeDiffView × List String) (incoming : FileChangeDiffView) :
    InsertionMap String FileChangeDiffView × List String :=
  let existing := byPath.1.get incoming.path
  let diff := selectTranscriptText stringLength (existing.map (·.diff)) (some incoming.diff) true true
  (byPath.1.set incoming.path { incoming with diff := diff.getD incoming.diff },
    if incoming.path ∈ byPath.2 then byPath.2 else byPath.2 ++ [incoming.path])

def mergeFileChanges (existing incoming : List FileChangeDiffView) : List FileChangeDiffView :=
  if existing = [] then incoming
  else if incoming = [] then existing
  else
    let changesByPath := existing.foldl (fun byPath change => byPath.set change.path change) InsertionMap.empty
    let (byPath, order) := incoming.foldl mergeFileChange (changesByPath, existing.map (·.path))
    order.filterMap byPath.get

/-- The fields a tool's wire form leaves out when they are empty keep the held value. -/
def mergeToolView (existing incoming : Option ToolCallView) (existingFull incomingFull : Bool) : Option ToolCallView :=
  match existing, incoming with
  | none, incoming => incoming
  | some held, none => some held
  | some held, some tool =>
    let select (heldText text : Option String) := selectTranscriptText stringLength heldText text existingFull incomingFull
    some { tool with
      kind := tool.kind.or held.kind
      applyState := tool.applyState.or held.applyState
      fileChangesOmitted := tool.fileChangesOmitted || held.fileChangesOmitted
      canApply := tool.canApply.or held.canApply
      detail := select held.detail tool.detail
      inputPreview := select held.inputPreview tool.inputPreview
      resultPreview := select held.resultPreview tool.resultPreview
      diff := select held.diff tool.diff
      fileChanges := mergeFileChanges held.fileChanges tool.fileChanges }

/-- Whether the text is short belongs to the copy the text was kept from. -/
def mergeInjection (cards : CardBodies Card) (existing incoming : Entry Card) (text : Option Text) : Option Card :=
  match incoming.injection with
  | none => existing.injection
  | some card =>
    let combined := match existing.injection with
      | some held => cards.combineCardBodies card held
      | none => card
    if text = existing.text ∧ text ≠ incoming.text then
      some (cards.withTextClipped combined (existing.injection.any cards.textClipped))
    else some combined

/-- The merge of a held row with a copy that went through `toTranscriptEntry`. -/
def mergeHeldEntry (cards : CardBodies Card) (existing incoming : Entry Card) : Entry Card :=
  let existingFull := isFullContent existing
  let incomingFull := isFullContent incoming
  let text := selectTranscriptText List.length existing.text incoming.text existingFull incomingFull
  { rowId := incoming.rowId.or existing.rowId
    itemId := incoming.itemId
    kind := incoming.kind
    text := text
    status := incoming.status
    turnId := (truthy incoming.turnId).or (truthy existing.turnId)
    tool := mergeToolView existing.tool incoming.tool existingFull incomingFull
    contentState := rankToContentState (max (contentStateRank existing.contentState)
      (contentStateRank incoming.contentState))
    entrySeq := incoming.entrySeq.or existing.entrySeq
    orderSeq := existing.orderSeq.or incoming.orderSeq
    withdrawn := existing.withdrawn || incoming.withdrawn
    injection := mergeInjection cards existing incoming text }

def mergeTranscriptEntry (cards : CardBodies Card) (existing : Option (Entry Card)) (incoming : Entry Card) :
    Entry Card :=
  match existing with
  | none => incoming
  | some held => mergeHeldEntry cards held incoming

/-- The fields a window keeps of a sent row. -/
def toTranscriptEntry (entry : Entry Card) : Entry Card :=
  { entry with
    rowId := truthy entry.rowId
    turnId := truthy entry.turnId
    entrySeq := none }

/-- The text of an omitted row is a clipped shell, and is dropped. -/
def prepareSnapshotOverlayEntry (entry : Entry Card) : Entry Card :=
  let incoming := toTranscriptEntry entry
  if incoming.contentState = .omitted then { incoming with text := none } else incoming

/-- What a delta adds to the text at hand; nothing is added across a gap or a difference. -/
def resolveDeltaAppend (haveText deltaText : Text) (textOffset : Option Nat) : Option Text :=
  match textOffset with
  | none => some deltaText
  | some offset =>
    if haveText.length < offset then none
    else
      let overlapLen := min (haveText.length - offset) deltaText.length
      if (haveText.drop offset).take overlapLen ≠ deltaText.take overlapLen then none
      else if offset + deltaText.length ≤ haveText.length then some []
      else some (deltaText.drop (haveText.length - offset))

def normalizeTranscriptDeltaKind (kind : Option String) : String :=
  match truthy kind with
  | none => "agent_text"
  | some kind => if kind = "command_output" then "command" else kind

theorem transcriptRowKey_toTranscriptEntry {entry : Entry Card} {key : String}
    (keyed : transcriptRowKey entry = some key) : transcriptRowKey (toTranscriptEntry entry) = some key := by
  obtain ⟨rowId, itemId⟩ := entry
  unfold transcriptRowKey toTranscriptEntry truthy at *
  cases rowId with
  | none => simpa using keyed
  | some rowId =>
    by_cases empty : rowId = ""
    · subst empty
      simp at keyed
    · simpa [Option.filter, empty] using keyed

theorem transcriptRowKey_prepareSnapshotOverlayEntry {entry : Entry Card} {key : String}
    (keyed : transcriptRowKey entry = some key) : transcriptRowKey (prepareSnapshotOverlayEntry entry) = some key := by
  have plain := transcriptRowKey_toTranscriptEntry keyed
  unfold prepareSnapshotOverlayEntry
  dsimp only
  split
  · exact plain
  · exact plain

theorem rankToContentState_max_eq_full (a b : TranscriptContentState) :
    rankToContentState (max (contentStateRank a) (contentStateRank b)) = .full ↔ a = .full ∨ b = .full := by
  cases a <;> cases b <;> decide

/-- The text kept is one of the two, and the shorter one only against a body that is not all there. -/
theorem selectTranscriptText_some {existing incoming : Text} {existingFull incomingFull : Bool} :
    selectTranscriptText List.length (some existing) (some incoming) existingFull incomingFull =
      if incoming.length < existing.length ∨ incoming.length = existing.length ∧ existingFull ∧ !incomingFull
      then some existing else some incoming := by
  unfold selectTranscriptText
  cases existingFull <;> cases incomingFull <;> grind

@[simp] theorem selectTranscriptText_none {α : Type} (length : α → Nat) (existing : Option α) (a b : Bool) :
    selectTranscriptText length existing none a b = existing := rfl

@[simp] theorem selectTranscriptText_none_left {α : Type} (length : α → Nat) (incoming : α) (a b : Bool) :
    selectTranscriptText length none (some incoming) a b = some incoming := rfl

/-- A placed delta continues the text at hand up to its offset. -/
theorem resolveDeltaAppend_places {haveText deltaText added : Text} {offset : Nat}
    (placed : resolveDeltaAppend haveText deltaText (some offset) = some added) (grows : added ≠ []) :
    offset ≤ haveText.length ∧ haveText ++ added = haveText.take offset ++ deltaText := by
  simp only [resolveDeltaAppend] at placed
  split at placed
  · cases placed
  rename_i reached
  split at placed
  · cases placed
  rename_i agrees
  split at placed
  · exact absurd (Option.some.inj placed).symm grows
  rename_i beyond
  have inside : offset ≤ haveText.length := by omega
  have overlap : min (haveText.length - offset) deltaText.length = haveText.length - offset := by omega
  rw [overlap] at agrees
  have tail : haveText.drop offset = deltaText.take (haveText.length - offset) := by
    have whole : (haveText.drop offset).take (haveText.length - offset) = haveText.drop offset := by
      rw [← List.length_drop, List.take_length]
    rw [← whole]
    simpa using agrees
  refine ⟨inside, ?_⟩
  calc haveText ++ added = haveText.take offset ++ haveText.drop offset ++ added := by rw [List.take_append_drop]
    _ = haveText.take offset ++ (deltaText.take (haveText.length - offset) ++
          deltaText.drop (haveText.length - offset)) := by
        rw [tail, ← Option.some.inj placed, List.append_assoc]
    _ = haveText.take offset ++ deltaText := by rw [List.take_append_drop]

end Sealwire.Hydration
