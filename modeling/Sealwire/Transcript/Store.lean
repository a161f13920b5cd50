import Sealwire.Lib.Word
import Sealwire.Lib.Table
import Sealwire.Transcript.Record

namespace Sealwire.Transcript

inductive IdSpace
  | provider
  | relay
  | row
  deriving DecidableEq

/-- The two spaces of source names, whose binders are one code on two fields. -/
inductive SourceSpace
  | provider
  | relay
  deriving DecidableEq

def IdSpace.providerNameOf (space : IdSpace) (itemId : String) : Option String :=
  match space with
  | .provider => some itemId
  | .relay | .row => none

def IdSpace.relayNameOf (space : IdSpace) (itemId : String) : Option String :=
  match space with
  | .relay => some itemId
  | .provider | .row => none

def TranscriptRecord.sourceName (space : SourceSpace) (record : TranscriptRecord) : Option String :=
  match space with
  | .provider => record.providerItemId
  | .relay => record.relayItemId

def TranscriptRecord.setSourceName (space : SourceSpace) (record : TranscriptRecord) (name : Option String) :
    TranscriptRecord :=
  match space with
  | .provider => { record with providerItemId := name }
  | .relay => { record with relayItemId := name }

/-- `rows` is the only source of truth; the three maps are derived from it. -/
structure ThreadTranscript where
  rows : List TranscriptRecord
  byRowId : Table String Nat
  rowIdByProviderItemId : Table String String
  rowIdByRelayItemId : Table String String
  syntheticSeq : UInt64

structure RowIdentity where
  rowId : String
  orderSeq : Int
  withdrawn : Bool

def RowIdentity.of (record : TranscriptRecord) : RowIdentity where
  rowId := record.rowId
  orderSeq := record.orderSeq
  withdrawn := record.withdrawn

def RowIdentity.restore (identity : RowIdentity) (record : TranscriptRecord) : TranscriptRecord :=
  { record with
    rowId := identity.rowId
    orderSeq := identity.orderSeq
    withdrawn := record.withdrawn || identity.withdrawn }

/-- `usize::MAX`, written while a batch is being claimed. -/
def usizeMax : Nat := 18446744073709551615

namespace ThreadTranscript

def new : ThreadTranscript where
  rows := []
  byRowId := ∅
  rowIdByProviderItemId := ∅
  rowIdByRelayItemId := ∅
  syntheticSeq := 0

def names (space : SourceSpace) (t : ThreadTranscript) : Table String String :=
  match space with
  | .provider => t.rowIdByProviderItemId
  | .relay => t.rowIdByRelayItemId

def setNames (space : SourceSpace) (t : ThreadTranscript) (names : Table String String) : ThreadTranscript :=
  match space with
  | .provider => { t with rowIdByProviderItemId := names }
  | .relay => { t with rowIdByRelayItemId := names }

def resolveRow (t : ThreadTranscript) (rowId : String) : Option String :=
  if t.byRowId.has rowId then some rowId else none

def resolveName (space : SourceSpace) (t : ThreadTranscript) (itemId : String) : Option String :=
  ((t.names space).get itemId).filter fun rowId => t.byRowId.has rowId

def resolveProvider (t : ThreadTranscript) (providerItemId : String) : Option String :=
  t.resolveName .provider providerItemId

def resolveRelay (t : ThreadTranscript) (relayItemId : String) : Option String :=
  t.resolveName .relay relayItemId

def resolveIn (t : ThreadTranscript) (space : IdSpace) (id : String) : Option String :=
  match space with
  | .provider => t.resolveProvider id
  | .relay => t.resolveRelay id
  | .row => t.resolveRow id

def indexOfRow (t : ThreadTranscript) (rowId : String) : Option Nat :=
  t.byRowId.get rowId

def resolveIndexIn (t : ThreadTranscript) (space : IdSpace) (id : String) : Option Nat :=
  (t.resolveIn space id).bind t.indexOfRow

def resolveIncoming (t : ThreadTranscript) (record : TranscriptRecord) : Option String :=
  match record.providerItemId with
  | some providerItemId => t.resolveProvider providerItemId
  | none =>
    match record.relayItemId with
    | some relayItemId => t.resolveRelay relayItemId
    | none => t.resolveRow record.rowId

def getRow (t : ThreadTranscript) (rowId : String) : Option TranscriptRecord :=
  (t.indexOfRow rowId).bind fun index => t.rows[index]?

/-- The name tried at one round of the minting loop. -/
def mintedName (candidate : String) (seq : Nat) : String :=
  if candidate = "" then "row:" ++ seq.repr else candidate ++ "#row" ++ seq.repr

/-- The minting loop. Without a free name among as many rounds as there are row ids,
and one more, it has no end; `none` stands for that. -/
def mintLoop : Nat → String → Table String Nat → UInt64 → Option (String × UInt64)
  | 0, _, _, _ => none
  | rounds + 1, candidate, byRowId, seq =>
    let seq := saturatingAdd seq 1
    let minted := mintedName candidate seq.toNat
    if byRowId.has minted then mintLoop rounds candidate byRowId seq else some (minted, seq)

def mintRowId (candidate : String) (byRowId : Table String Nat) (seq : UInt64) : Option (String × UInt64) :=
  if candidate ≠ "" ∧ !byRowId.has candidate then some (candidate, seq)
  else mintLoop (byRowId.len + 1) candidate byRowId seq

/-- Overwrite one row. -/
def setRow (t : ThreadTranscript) (index : Nat) (record : TranscriptRecord) : ThreadTranscript :=
  { t with rows := t.rows.set index record }

/-- Both binders: refuse an empty name, a row that is gone and a name that a different live
row holds; else record the name, and on the row if it has none yet. -/
def bindName (space : SourceSpace) (t : ThreadTranscript) (rowId itemId : String) : ThreadTranscript × Bool :=
  if itemId = "" ∨ !t.byRowId.has rowId then (t, false)
  else if ((t.names space).get itemId).any fun existing => existing ≠ rowId && t.byRowId.has existing then (t, false)
  else
    let t := t.setNames space ((t.names space).put itemId rowId)
    match t.byRowId.get rowId with
    | none => (t, true)
    | some index =>
      match t.rows[index]? with
      | none => (t, true)
      | some row =>
        if (row.sourceName space).isNone then (t.setRow index (row.setSourceName space (some itemId)), true)
        else (t, true)

def bindProviderItemId (t : ThreadTranscript) (rowId providerItemId : String) : ThreadTranscript × Bool :=
  t.bindName .provider rowId providerItemId

def bindRelayItemId (t : ThreadTranscript) (rowId relayItemId : String) : ThreadTranscript × Bool :=
  t.bindName .relay rowId relayItemId

/-- Bind a name the row's record carries, if it carries one. -/
def bindCarried (space : SourceSpace) (t : ThreadTranscript) (rowId : String) (name : Option String) :
    ThreadTranscript :=
  match name with
  | some itemId => (t.bindName space rowId itemId).1
  | none => t

def bindOwnNames (t : ThreadTranscript) (rowId : String) (providerItemId relayItemId : Option String) :
    ThreadTranscript :=
  (t.bindCarried .provider rowId providerItemId).bindCarried .relay rowId relayItemId

def push (t : ThreadTranscript) (record : TranscriptRecord) : Option (ThreadTranscript × String) := do
  let (rowId, seq) ← mintRowId record.rowId t.byRowId t.syntheticSeq
  let t := { t with
    rows := t.rows ++ [{ record with rowId := rowId }]
    byRowId := t.byRowId.put rowId t.rows.length
    syntheticSeq := seq }
  some (t.bindOwnNames rowId record.providerItemId record.relayItemId, rowId)

def pushAll (t : ThreadTranscript) (records : List TranscriptRecord) : Option ThreadTranscript :=
  records.foldlM (fun t record => (t.push record).map Prod.fst) t

def fromRows (rows : List TranscriptRecord) : Option ThreadTranscript :=
  new.pushAll rows

/-- The one door into a row. Its id and key are put back after the edit, and a withdrawal stays. -/
def updateRow {R : Type} (t : ThreadTranscript) (rowId : String) (edit : TranscriptRecord → TranscriptRecord × R) :
    ThreadTranscript × Option R :=
  match t.byRowId.get rowId with
  | none => (t, none)
  | some index =>
    match t.rows[index]? with
    | none => (t, none)
    | some row =>
      let identity := RowIdentity.of row
      let (edited, outcome) := edit row
      let restored := identity.restore edited
      let t := t.setRow index restored
      (t.bindOwnNames identity.rowId restored.providerItemId restored.relayItemId, some outcome)

/-- `HashMap::entry(..).or_insert_with(..)` for each row that carries a name. -/
def nameRows (space : SourceSpace) (rows : List TranscriptRecord) (names : Table String String) :
    Table String String :=
  rows.foldl (fun names row =>
    match row.sourceName space with
    | some itemId => if names.has itemId then names else names.put itemId row.rowId
    | none => names) names

def indexRows (rows : List TranscriptRecord) : Table String Nat :=
  rows.zipIdx.foldl (fun byRowId (entry : TranscriptRecord × Nat) => byRowId.put entry.1.rowId entry.2) ∅

def reindex (t : ThreadTranscript) : ThreadTranscript :=
  let byRowId := indexRows t.rows
  let live (names : Table String String) := names.retain fun _ rowId => byRowId.has rowId
  { t with
    byRowId := byRowId
    rowIdByProviderItemId := nameRows .provider t.rows (live t.rowIdByProviderItemId)
    rowIdByRelayItemId := nameRows .relay t.rows (live t.rowIdByRelayItemId) }

/-- Run a closure with state of its own over the rows, restoring each row's identity. -/
def editAll {S : Type} (edit : S → TranscriptRecord → TranscriptRecord × S) : S → List TranscriptRecord →
    List TranscriptRecord
  | _, [] => []
  | state, row :: rest =>
    let (edited, next) := edit state row
    (RowIdentity.of row).restore edited :: editAll edit next rest

def updateAll {S : Type} (t : ThreadTranscript) (edit : S → TranscriptRecord → TranscriptRecord × S) (state : S) :
    ThreadTranscript :=
  ({ t with rows := editAll edit state t.rows }).reindex

/-- Give each record of a batch a free row id, claiming it at once. -/
def claimRowIds : List TranscriptRecord → Table String Nat → UInt64 →
    Option (List TranscriptRecord × Table String Nat × UInt64)
  | [], byRowId, seq => some ([], byRowId, seq)
  | record :: rest, byRowId, seq => do
    let (rowId, seq) ← mintRowId record.rowId byRowId seq
    let (claimed, byRowId, seq) ← claimRowIds rest (byRowId.put rowId usizeMax) seq
    some ({ record with rowId := rowId } :: claimed, byRowId, seq)

/-- An index past the end aborts, as `Vec::insert` does. -/
def insertBefore (t : ThreadTranscript) (index : Nat) (records : List TranscriptRecord) :
    Option (ThreadTranscript × List String) := do
  let (claimed, byRowId, seq) ← claimRowIds records t.byRowId t.syntheticSeq
  if index ≤ t.rows.length ∨ claimed = [] then
    let t := { t with
      rows := t.rows.take index ++ claimed ++ t.rows.drop index
      byRowId := byRowId
      syntheticSeq := seq }
    some (t.reindex, claimed.map (·.rowId))
  else none

def clear (t : ThreadTranscript) : ThreadTranscript :=
  { t with rows := [], byRowId := ∅, rowIdByProviderItemId := ∅, rowIdByRelayItemId := ∅ }

end ThreadTranscript

end Sealwire.Transcript
