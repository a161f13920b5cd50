import Mathlib.Data.List.Perm.Basic
import Sealwire.Core.Devices

namespace Sealwire.Core

variable {E : Entities}

/-- The rows of several tables in one list, each under its table and key. -/
def flatRows (parts : List Section) : List ((EntityTable × String) × Except String Json) :=
  parts.flatMap fun part => part.2.map fun row => ((part.1, row.1), row.2)

/-- The value of a row that encodes. -/
def valueOf : Except String Json → Json
  | .ok value => value
  | .error _ => .null

/-- The row a value is printed into. -/
def printed (text : JsonText) (row : String × Except String Json) : String × String :=
  (row.1, text.print (valueOf row.2))

theorem foldlM_putRow {text : JsonText} {table : EntityTable} {part : List (String × Except String Json)}
    (encodes : ∀ row ∈ part, ∃ value, row.2 = .ok value) (rows : Table (EntityTable × String) String) :
    part.foldlM (putRow text table) rows =
      .ok (part.foldl (fun rows row => rows.put (table, row.1) (text.print (valueOf row.2))) rows) := by
  induction part generalizing rows with
  | nil => rfl
  | cons row part ih =>
    obtain ⟨value, encoded⟩ := encodes row List.mem_cons_self
    have step : putRow text table rows row = .ok (rows.put (table, row.1) (text.print (valueOf row.2))) := by
      simp [putRow, encoded, valueOf]
    rw [List.foldlM_cons, step]
    exact ih (fun r member => encodes r (List.mem_cons_of_mem _ member)) _

theorem foldlM_putSection {text : JsonText} {parts : List Section}
    (encodes : ∀ part ∈ parts, ∀ row ∈ part.2, ∃ value, row.2 = .ok value)
    (rows : Table (EntityTable × String) String) :
    parts.foldlM (putSection text) rows =
      .ok ((flatRows parts).foldl (fun rows row => rows.put row.1 (text.print (valueOf row.2))) rows) := by
  induction parts generalizing rows with
  | nil => rfl
  | cons part parts ih =>
    rw [List.foldlM_cons, putSection, foldlM_putRow (encodes part List.mem_cons_self), flatRows, List.flatMap_cons,
      List.foldl_append, List.foldl_map]
    exact ih (fun p member => encodes p (List.mem_cons_of_mem _ member)) _

/-- What the rows of a state rest on: every entity encodes and reads back, the ids of the
proposals are distinct, and the text of every body reads back. -/
structure Faithful (text : JsonText) (state : PersistedRelayState E) : Prop where
  entities : ∀ kind, (E.codec kind).RoundTrips
  ids : (state.orchestratorProposals.map E.proposalId).Nodup
  texts : ∀ part ∈ state.sections, ∀ row ∈ part.2, ∀ value, row.2 = .ok value →
    text.parse (text.print value) = .ok value

theorem mapRows_encodes {α : Type} {codec : Codec α} (trips : codec.RoundTrips) (map : Table String α) :
    ∀ row ∈ mapRows codec map, ∃ value, row.2 = .ok value := by
  intro row member
  obtain ⟨entry, _, rfl⟩ := List.mem_map.mp member
  obtain ⟨value, written, _⟩ := trips entry.2
  exact ⟨value, written⟩

theorem mapRows_keys {α β : Type} (map : Table String α) (value : α → β) :
    ((map.pairs.map fun entry => (entry.1, value entry.2)).map Prod.fst).Nodup := by
  rw [List.map_map]
  exact map.pairs_nodup

theorem settings_encodes (state : PersistedRelayState E) :
    ∀ row ∈ state.settings, ∃ value, row.2 = .ok value := by
  have text := Codec.string_roundTrips
  have optional := Codec.option_roundTrips text Codec.string_neverNull
  have listed := Codec.list_roundTrips text
  have word := Codec.u64_roundTrips
  have optional_word := Codec.option_roundTrips word Codec.u64_neverNull
  have version := Codec.option_roundTrips Codec.u32_roundTrips Codec.u32_neverNull
  have writes {α : Type} {codec : Codec α} (trips : codec.RoundTrips) (value : α) :
      ∃ json, codec.toValue value = .ok json := by
    obtain ⟨json, written, _⟩ := trips value
    exact ⟨json, written⟩
  simp only [PersistedRelayState.settings, List.forall_mem_cons, List.not_mem_nil, false_imp_iff, implies_true,
    and_true]
  exact ⟨writes optional _, writes text _, writes text _, writes text _, writes text _, writes text _, writes text _,
    writes listed _, writes optional_word _, writes text _, writes listed _, writes Codec.bool_roundTrips _,
    writes optional _, writes optional _, writes optional _, writes version _, writes word _⟩

theorem Faithful.encodes {text : JsonText} {state : PersistedRelayState E} (faithful : Faithful text state) :
    ∀ part ∈ state.sections, ∀ row ∈ part.2, ∃ value, row.2 = .ok value := by
  have entity (kind : EntityKind) := faithful.entities kind
  have text := Codec.string_roundTrips
  have flagged : ∀ row ∈ state.threadFlagged.pairs.map fun entry => (entry.1, Codec.bool.toValue true),
      ∃ value, row.2 = .ok value := by
    intro row member
    obtain ⟨_, _, rfl⟩ := List.mem_map.mp member
    exact ⟨_, rfl⟩
  have devices : ∀ row ∈ state.pairedDevices.pairs.map fun entry => (entry.1, deviceBody entry.2),
      ∃ value, row.2 = .ok value := by
    intro row member
    obtain ⟨entry, _, rfl⟩ := List.mem_map.mp member
    obtain ⟨fields, written, _⟩ := deviceBody_roundTrips entry.2
    exact ⟨_, written⟩
  have proposals : ∀ row ∈ state.orchestratorProposals.zipIdx.map fun entry =>
      (E.proposalId entry.1, proposalBody entry.2 entry.1), ∃ value, row.2 = .ok value := by
    intro row member
    obtain ⟨entry, _, rfl⟩ := List.mem_map.mp member
    obtain ⟨value, written, _⟩ := entity .orchestratorProposalView entry.1
    exact ⟨.object [("card", value), ("position", .number (.posInt (UInt64.ofNat entry.2)))],
      by simp [proposalBody, written, Except.map]⟩
  simp only [PersistedRelayState.sections, List.forall_mem_cons, List.not_mem_nil, false_imp_iff, implies_true,
    and_true]
  exact ⟨settings_encodes state, mapRows_encodes (entity _) _, mapRows_encodes text _, mapRows_encodes (entity _) _,
    mapRows_encodes (entity _) _, mapRows_encodes text _, mapRows_encodes text _,
    mapRows_encodes Codec.u64_roundTrips _, mapRows_encodes text _, mapRows_encodes text _, flagged,
    mapRows_encodes (entity _) _, devices, mapRows_encodes (entity _) _,
    mapRows_encodes (Codec.list_roundTrips (entity _)) _, mapRows_encodes (entity _) _, mapRows_encodes (entity _) _,
    mapRows_encodes (entity _) _, mapRows_encodes (entity _) _, mapRows_encodes (entity _) _,
    mapRows_encodes (entity _) _, mapRows_encodes (entity _) _, mapRows_encodes (entity _) _, proposals⟩

theorem sections_tables (state : PersistedRelayState E) : (state.sections.map Prod.fst).Nodup := by
  simp only [PersistedRelayState.sections, List.map_cons, List.map_nil]
  decide

theorem Faithful.section_keys {text : JsonText} {state : PersistedRelayState E} (faithful : Faithful text state) :
    ∀ part ∈ state.sections, (part.2.map Prod.fst).Nodup := by
  have settings : (state.settings.map Prod.fst).Nodup := by
    simp only [PersistedRelayState.settings, List.map_cons, List.map_nil]
    decide
  have proposals : ((state.orchestratorProposals.zipIdx.map fun entry =>
      (E.proposalId entry.1, proposalBody entry.2 entry.1)).map Prod.fst).Nodup := by
    have keys : (state.orchestratorProposals.zipIdx.map fun entry =>
        (E.proposalId entry.1, proposalBody entry.2 entry.1)).map Prod.fst =
        state.orchestratorProposals.map E.proposalId := by
      rw [List.map_map]
      conv_rhs => rw [← List.zipIdx_map_fst 0 state.orchestratorProposals, List.map_map]
      rfl
    rw [keys]
    exact faithful.ids
  simp only [PersistedRelayState.sections, List.forall_mem_cons, List.not_mem_nil, false_imp_iff, implies_true,
    and_true, mapRows]
  exact ⟨settings, mapRows_keys _ _, mapRows_keys _ _, mapRows_keys _ _, mapRows_keys _ _, mapRows_keys _ _,
    mapRows_keys _ _, mapRows_keys _ _, mapRows_keys _ _, mapRows_keys _ _,
    mapRows_keys state.threadFlagged fun _ => Codec.bool.toValue true, mapRows_keys _ _, mapRows_keys _ _,
    mapRows_keys _ _, mapRows_keys _ _, mapRows_keys _ _, mapRows_keys _ _, mapRows_keys _ _, mapRows_keys _ _,
    mapRows_keys _ _, mapRows_keys _ _, mapRows_keys _ _, mapRows_keys _ _, proposals⟩

theorem Faithful.flat_keys {text : JsonText} {state : PersistedRelayState E} (faithful : Faithful text state) :
    ((flatRows state.sections).map Prod.fst).Nodup := by
  have tables := List.pairwise_map.mp (sections_tables state)
  rw [flatRows, List.map_flatMap, List.nodup_flatMap]
  constructor
  · intro part member
    have keys := (faithful.section_keys part member).map (f := fun key => (part.1, key))
      fun a b same => (Prod.mk.inj same).2
    rw [List.map_map] at keys ⊢
    exact keys
  · refine tables.imp ?_
    intro part other different
    simp only [List.map_map, List.disjoint_left, List.mem_map]
    rintro key ⟨row, _, rfl⟩ ⟨row', _, same⟩
    exact different (Prod.mk.inj same).1.symm

/-- What the rows of a state hold. -/
structure RowsOf (text : JsonText) (state : PersistedRelayState E) (rows : CoreRows) : Prop where
  entities : ∀ {table key body}, rows.entities.get (table, key) = some body ↔
    ∃ part ∈ state.sections, part.1 = table ∧ (key, body) ∈ part.2.map (printed text)
  secrets : ∀ id, rows.deviceSecrets.get id = (state.pairedDevices.get id).map PairedDevice.payloadSecret

theorem Faithful.rowsOf {text : JsonText} {state : PersistedRelayState E} (faithful : Faithful text state) :
    ∃ rows, rowsOf text state = .ok rows ∧ RowsOf text state rows := by
  refine ⟨_, by rw [Core.rowsOf, foldlM_putSection faithful.encodes]; rfl, ?_, ?_⟩
  · intro table key body
    have keys : (((flatRows state.sections).map fun row => (row.1, text.print (valueOf row.2))).map Prod.fst).Nodup := by
      rw [List.map_map]
      exact faithful.flat_keys
    have held := Table.get_ofPairs_iff keys (k := (table, key)) (v := body)
    rw [Table.ofPairs, List.foldl_map] at held
    rw [held, flatRows]
    simp only [List.mem_map, List.mem_flatMap, printed, Prod.mk.injEq]
    constructor
    · rintro ⟨_, ⟨part, member, row, inside, rfl⟩, here, rfl⟩
      cases here
      exact ⟨part, member, rfl, row, inside, rfl, rfl⟩
    · rintro ⟨part, member, rfl, row, inside, rfl, rfl⟩
      exact ⟨_, ⟨part, member, row, inside, rfl⟩, rfl, rfl⟩
  · intro id
    apply Option.ext
    intro secret
    have keys := mapRows_keys state.pairedDevices PairedDevice.payloadSecret
    rw [Table.get_ofPairs_iff keys, List.mem_map, Option.map_eq_some_iff]
    constructor
    · rintro ⟨entry, member, same⟩
      cases same
      exact ⟨entry.2, Table.mem_pairs_iff.mp member, rfl⟩
    · rintro ⟨device, held, rfl⟩
      exact ⟨(id, device), Table.mem_pairs_iff.mpr held, rfl⟩

theorem mapM_eq_ok_iff {α β : Type} {f : α → Except String β} {l : List α} {out : List β} :
    l.mapM f = .ok out ↔ List.Forall₂ (fun a b => f a = .ok b) l out := by
  induction l generalizing out with
  | nil => simp [pure, Except.pure, eq_comm]
  | cons a l ih =>
    rw [List.mapM_cons, List.forall₂_cons_left_iff]
    cases one : f a with
    | error error => simp [bind, Except.bind]
    | ok b =>
      cases rest : l.mapM f with
      | error error =>
        have never : ∀ u, ¬ List.Forall₂ (fun a b => f a = .ok b) l u := fun u all => by
          rw [ih.mpr all] at rest
          cases rest
        simp [bind, Except.bind, never]
      | ok bs =>
        have found : ∀ u, List.Forall₂ (fun a b => f a = .ok b) l u ↔ bs = u := fun u => by
          rw [← ih, rest, Except.ok.injEq]
        simp [bind, Except.bind, pure, Except.pure, found, eq_comm]

/-- Rows in any order are read to the same values, in that order. -/
theorem mapM_perm {α β : Type} {f : α → Except String β} {l l' : List α} {out : List β} (same : l.Perm l')
    (read : List.Forall₂ (fun a b => f a = .ok b) l' out) : ∃ values, l.mapM f = .ok values ∧ values.Perm out := by
  obtain ⟨values, each, perm⟩ := List.perm_comp_forall₂ same read
  exact ⟨values, mapM_eq_ok_iff.mpr each, perm⟩

theorem Faithful.tableRows {text : JsonText} {state : PersistedRelayState E} (faithful : Faithful text state)
    {rows : CoreRows} (held : RowsOf text state rows) {part : Section} (member : part ∈ state.sections) :
    (rows.tableRows part.1).Perm (part.2.map (printed text)) := by
  have keys : ((part.2.map (printed text)).map Prod.fst).Nodup := by
    rw [List.map_map]
    exact faithful.section_keys part member
  have found := nodup_filterMap_pairs rows.entities part.1 id
  refine (List.mergeSort_perm _ _).trans ((List.perm_ext_iff_of_nodup found.of_map keys.of_map).mpr ?_)
  rintro ⟨key, body⟩
  rw [List.mem_filterMap]
  constructor
  · rintro ⟨⟨⟨table, k⟩, b⟩, inside, here⟩
    split at here
    · rename_i same
      cases here
      obtain ⟨other, listed, table, printed⟩ := held.entities.mp (Table.mem_pairs_iff.mp inside)
      rw [← List.inj_on_of_nodup_map (sections_tables state) listed member (table.trans same)]
      exact printed
    · cases here
  · intro inside
    exact ⟨((part.1, key), body), Table.mem_pairs_iff.mpr (held.entities.mpr ⟨part, member, rfl, inside⟩), by simp⟩

end Sealwire.Core
