import Sealwire.Hydration.Entries

namespace Sealwire.Hydration

variable {Card : Type}

/-- The rows of a window by their keys. -/
abbrev Entries (Card : Type) := InsertionMap String (Entry Card)

/-- The number of a row, if there is a row and it has one. -/
def orderKey (row : Option (Entry Card)) : Option Int := row.bind (·.orderSeq)

def rowHasOrderKey (row : Option (Entry Card)) : Bool := (orderKey row).isSome

def rowsAreOrderKeyed (rows : List (Entry Card)) : Bool :=
  !rows.isEmpty && rows.all fun row => (transcriptRowKey row).isSome && rowHasOrderKey (some row)

def orderKeyedAfter (rowFor : String → Option (Entry Card)) : Option Int → List String → Bool
  | _, [] => true
  | previous, key :: rest =>
    match orderKey (rowFor key) with
    | none => false
    | some seq => !(previous.any fun last => decide (seq < last)) && orderKeyedAfter rowFor (some seq) rest

/-- Every row has a number, and the window is in number order. -/
def windowIsOrderKeyed (order : List String) (entries : Entries Card) : Bool :=
  orderKeyedAfter entries.get none order

/-- A withdrawn row stays withdrawn, and a row's first number is kept. -/
def applyRowIdentityInvariants (existing : Option (Entry Card)) (merged : Entry Card) : Entry Card :=
  match existing with
  | none => merged
  | some held =>
    { merged with
      withdrawn := held.withdrawn || merged.withdrawn
      orderSeq := held.orderSeq.or merged.orderSeq }

def splice (order : List String) (at_ : Nat) (key : String) : List String :=
  order.take at_ ++ key :: order.drop at_

def slotFits (order : List String) (rowFor : String → Option (Entry Card)) (seq : Int) (at_ : Nat) : Bool :=
  let left := at_ = 0 || (orderKey (order[at_ - 1]?.bind rowFor)).any fun number => decide (number ≤ seq)
  let right := at_ = order.length || (orderKey (order[at_]?.bind rowFor)).any fun number => decide (seq ≤ number)
  decide (at_ ≤ order.length) && left && right

/-- From the tail back to the last row whose number is not above; rows without a number are walked over. -/
def walkToSlot (order : List String) (rowFor : String → Option (Entry Card)) (seq : Int) : Nat → Bool → Nat
  | 0, sawKeyedNeighbour => if sawKeyedNeighbour then 0 else order.length
  | index + 1, sawKeyedNeighbour =>
    match orderKey (order[index]?.bind rowFor) with
    | none => walkToSlot order rowFor seq index sawKeyedNeighbour
    | some number => if number ≤ seq then index + 1 else walkToSlot order rowFor seq index true

def windowInsertionIndex (order : List String) (rowFor : String → Option (Entry Card)) (row : Option (Entry Card))
    (hint : Option Nat) : Nat :=
  match orderKey row with
  | none => order.length
  | some seq =>
    match hint.filter (slotFits order rowFor seq) with
    | some slot => slot
    | none => walkToSlot order rowFor seq order.length false

def keyedInsertionIndex (order : List String) (rowFor : String → Option (Entry Card)) (row : Option (Entry Card)) : Nat :=
  windowInsertionIndex order rowFor row none

structure WindowDraft (Card : Type) where
  order : List String
  entries : Entries Card

/-- How a copy is merged into the row the window holds, if it holds one. -/
abbrev MergeRow (Card : Type) := Option (Entry Card) → Entry Card → Entry Card

/-- The draft with the row, and where its key was inserted. -/
def upsertRowAt (mergeRow : MergeRow Card) (window : WindowDraft Card) (row : Entry Card) (hint : Option Nat) :
    WindowDraft Card × Option Nat :=
  match transcriptRowKey row with
  | none => (window, none)
  | some key =>
    let existing := window.entries.get key
    let entries := window.entries.set key (applyRowIdentityInvariants existing (mergeRow existing row))
    if existing.isSome then ({ window with entries := entries }, none)
    else
      let insertAt := windowInsertionIndex window.order entries.get (some row) hint
      ({ order := splice window.order insertAt key, entries := entries }, some insertAt)

/-- The default merge: every field the copy has wins. -/
def defaultMergeRow (existing : Option (Entry Card)) (incoming : Entry Card) : Entry Card :=
  match existing with
  | none => incoming
  | some held =>
    { incoming with
      rowId := incoming.rowId.or held.rowId
      entrySeq := incoming.entrySeq.or held.entrySeq
      orderSeq := incoming.orderSeq.or held.orderSeq
      withdrawn := held.withdrawn || incoming.withdrawn
      injection := incoming.injection.or held.injection }

def upsertWindowRowInPlace (window : WindowDraft Card) (row : Entry Card) : WindowDraft Card :=
  (upsertRowAt defaultMergeRow window row none).1

def isAscendingByOrderSeq (rows : List (Entry Card)) : Bool :=
  match rows with
  | first :: second :: rest =>
    decide (first.orderSeq.getD 0 ≤ second.orderSeq.getD 0) && isAscendingByOrderSeq (second :: rest)
  | _ => true

/-- The merge of an ascending run of rows with what is left of the window's order. -/
def mergeAscending (mergeRow : MergeRow Card) (entries : Entries Card) (order : List String) :
    List (Entry Card) → WindowDraft Card
  | [] => { order := order, entries := entries }
  | row :: rows =>
    match transcriptRowKey row with
    | none => mergeAscending mergeRow entries order rows
    | some key =>
      let existing := entries.get key
      let entries := entries.set key (applyRowIdentityInvariants existing (mergeRow existing row))
      if existing.isSome then mergeAscending mergeRow entries order rows
      else
        let notAbove (id : String) := !(orderKey (entries.get id)).any fun number => decide (row.orderSeq.getD 0 < number)
        let merged := mergeAscending mergeRow entries (order.dropWhile notAbove) rows
        { merged with order := order.takeWhile notAbove ++ key :: merged.order }

def mergeKeyedRowsLinearly (mergeRow : MergeRow Card) (window : WindowDraft Card) (rows : List (Entry Card)) :
    WindowDraft Card :=
  let sorted := if isAscendingByOrderSeq rows then rows
    else rows.mergeSort fun left right => decide (left.orderSeq.getD 0 ≤ right.orderSeq.getD 0)
  mergeAscending mergeRow window.entries window.order sorted

/-- Row by row, each with the slot after the one before as its hint. -/
def mergeRowByRow (mergeRow : MergeRow Card) (window : WindowDraft Card) (hint : Option Nat) :
    List (Entry Card) → WindowDraft Card
  | [] => window
  | row :: rows =>
    let (next, insertedAt) := upsertRowAt mergeRow window row hint
    mergeRowByRow mergeRow next ((insertedAt.map (· + 1)).or hint) rows

def mergeWindowRowsInPlace (mergeRow : MergeRow Card) (window : WindowDraft Card) (rows : List (Entry Card)) :
    WindowDraft Card :=
  if 1 < rows.length && rowsAreOrderKeyed rows && windowIsOrderKeyed window.order window.entries then
    mergeKeyedRowsLinearly mergeRow window rows
  else mergeRowByRow mergeRow window none rows

def uniqueItemIds (itemIds : List String) : List String :=
  itemIds.foldl (fun unique itemId => if itemId = "" ∨ itemId ∈ unique then unique else unique ++ [itemId]) []

/-- Split the window at the page's first known id; a window that shares none is below the page. -/
def mergeTailPageOrder (existingOrder pageItemIds : List String) : List String :=
  if existingOrder = [] then uniqueItemIds pageItemIds
  else
    let above := existingOrder.takeWhile fun itemId => decide (itemId ∉ pageItemIds)
    let reached := existingOrder.dropWhile fun itemId => decide (itemId ∉ pageItemIds)
    if reached = [] then uniqueItemIds (pageItemIds ++ above)
    else uniqueItemIds (above ++ pageItemIds ++ reached.filter fun itemId => decide (itemId ∉ pageItemIds))

/-- Merge rows into the map only. -/
def mergeIntoEntries (mergeRow : MergeRow Card) (entries : Entries Card) (rows : List (Entry Card)) : Entries Card :=
  rows.foldl (fun entries row =>
    match transcriptRowKey row with
    | none => entries
    | some key => entries.set key (mergeRow (entries.get key) row)) entries

/-- The window after a tail page, and whether it is in number order. -/
def reconcileAuthoritativeTail (merge : MergeRow Card) (window : WindowDraft Card) (pageEntries : List (Entry Card)) :
    WindowDraft Card × Bool :=
  let addressable := pageEntries.filter fun entry => (transcriptRowKey entry).isSome
  if rowsAreOrderKeyed addressable && windowIsOrderKeyed window.order window.entries then
    (mergeWindowRowsInPlace merge window addressable, true)
  else
    ({ order := mergeTailPageOrder window.order (addressable.filterMap transcriptRowKey)
       entries := mergeIntoEntries merge window.entries addressable }, false)

def newTailIdsAreNumbered (tailIds unorderedIds : List String) (rowFor : String → Option (Entry Card)) : Bool :=
  tailIds.all fun itemId => decide (itemId ∉ unorderedIds) || rowHasOrderKey (rowFor itemId)

def lastIndexOf (order : List String) (itemId : String) : Option Nat :=
  (order.reverse.findIdx? (· = itemId)).map fun back => order.length - 1 - back

/-- Where the first of the tail ids that the window orders stands. -/
def locateLaterTailId (order unorderedIds : List String) : List String → Option Nat
  | [] => none
  | itemId :: later =>
    match if itemId ∈ unorderedIds then none else lastIndexOf order itemId with
    | some at_ => some at_
    | none => locateLaterTailId order unorderedIds later

/-- Place the tail's ids by their own run, each after the one before it. -/
def placeOrderedTailIds (unorderedIds : List String) (working : List String) (anchorIndex : Option Nat) :
    List String → List String
  | [] => working
  | itemId :: later =>
    match if itemId ∈ unorderedIds then none else lastIndexOf working itemId with
    | some at_ => placeOrderedTailIds unorderedIds working (some at_) later
    | none =>
      let wanted := match anchorIndex with
        | some anchor => some (anchor + 1)
        | none => locateLaterTailId working unorderedIds later
      let insertAt := (wanted.filter fun at_ => decide (at_ < working.length)).getD working.length
      placeOrderedTailIds unorderedIds (splice working insertAt itemId) (some insertAt) later

/-- Place new ids by their numbers. -/
def placeKeyedTailIds (unorderedIds : List String) (rowFor : String → Option (Entry Card)) (working : List String) :
    List String → List String
  | [] => working
  | itemId :: later =>
    if itemId ∈ unorderedIds then
      let at_ := keyedInsertionIndex working rowFor (rowFor itemId)
      placeKeyedTailIds unorderedIds rowFor (splice working at_ itemId) later
    else placeKeyedTailIds unorderedIds rowFor working later

def placeTailIds (order tailIds unorderedIds : List String) (rowFor : String → Option (Entry Card)) (keyed : Bool) :
    List String :=
  if keyed then placeKeyedTailIds unorderedIds rowFor order tailIds
  else placeOrderedTailIds unorderedIds order none tailIds

end Sealwire.Hydration
