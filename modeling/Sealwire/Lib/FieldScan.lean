import Mathlib.Data.List.Nodup
import Mathlib.Data.List.Perm.Basic
import Sealwire.Lib.Json

namespace Sealwire

/-- How an object is read field by field: which names are known, and what a known field does to
the slots read so far. The flag of `decode` says that the value spoils the whole object. -/
structure FieldDecoder (F S : Type) where
  fieldOf : String → Option F
  decode : F → Json → S → Except DecodeError (S × Bool)

/-- An object in the middle of being read. -/
structure FieldScan (F S : Type) where
  slots : S
  seen : List F
  spoiled : Bool

namespace FieldDecoder

variable {F S : Type} [DecidableEq F]

/-- One field: an unknown or repeated one is passed over and spoils the object. -/
def visitField (decoder : FieldDecoder F S) (scan : FieldScan F S) (entry : String × Json) :
    Except DecodeError (FieldScan F S) :=
  match decoder.fieldOf entry.1 with
  | none => .ok { scan with spoiled := true }
  | some field =>
    if field ∈ scan.seen then .ok { scan with spoiled := true }
    else do
      let (slots, spoils) ← decoder.decode field entry.2 scan.slots
      .ok { slots := slots, seen := field :: scan.seen, spoiled := scan.spoiled || spoils }

def visitFields (decoder : FieldDecoder F S) (slots : S) (fields : List (String × Json)) :
    Except DecodeError (FieldScan F S) :=
  fields.foldlM decoder.visitField { slots := slots, seen := [], spoiled := false }

/-- No field fails: each writes its slot, and whether it spoils the object is up to its value. -/
def Reads (decoder : FieldDecoder F S) (put : F → Json → S → S) (spoils : F → Json → Bool) : Prop :=
  ∀ field value slots, decoder.decode field value slots = .ok (put field value slots, spoils field value)

variable {decoder : FieldDecoder F S} {put : F → Json → S → S} {spoils : F → Json → Bool}

/-- Every field is known and comes once. -/
structure Distinct (decoder : FieldDecoder F S) (fields : List (String × Json)) : Prop where
  known : ∀ entry ∈ fields, ∃ field, decoder.fieldOf entry.1 = some field
  once : (fields.map fun entry => decoder.fieldOf entry.1).Nodup

/-- The fields of an object that is read to the end unspoiled. -/
structure Clean (decoder : FieldDecoder F S) (spoils : F → Json → Bool) (fields : List (String × Json)) : Prop where
  known : ∀ entry ∈ fields, ∃ field, decoder.fieldOf entry.1 = some field ∧ spoils field entry.2 = false
  once : (fields.map fun entry => decoder.fieldOf entry.1).Nodup

omit [DecidableEq F] in
theorem Clean.distinct {fields : List (String × Json)} (clean : decoder.Clean spoils fields) :
    decoder.Distinct fields := by
  refine ⟨fun entry member => ?_, clean.once⟩
  obtain ⟨field, known, _⟩ := clean.known entry member
  exact ⟨field, known⟩

/-- The slots after a field, where nothing is wrong with it. -/
def putEntry (decoder : FieldDecoder F S) (put : F → Json → S → S) (slots : S) (entry : String × Json) : S :=
  match decoder.fieldOf entry.1 with
  | some field => put field entry.2 slots
  | none => slots

/-- What has been read is exactly what the entries so far say. -/
structure Scanned (decoder : FieldDecoder F S) (put : F → Json → S → S) (spoils : F → Json → Bool) (slots : S)
    (fields : List (String × Json)) (scan : FieldScan F S) : Prop where
  seen : ∀ field, field ∈ scan.seen ↔ some field ∈ fields.map fun entry => decoder.fieldOf entry.1
  clean : scan.spoiled = false ↔ decoder.Clean spoils fields
  slots : decoder.Distinct fields → scan.slots = fields.foldl (decoder.putEntry put) slots

omit [DecidableEq F] in
theorem distinct_append {fields : List (String × Json)} {entry : String × Json}
    (distinct : decoder.Distinct (fields ++ [entry])) :
    decoder.Distinct fields ∧
      ∃ field, decoder.fieldOf entry.1 = some field ∧ some field ∉ fields.map fun entry => decoder.fieldOf entry.1 := by
  obtain ⟨field, known⟩ := distinct.known entry (by simp)
  have split := distinct.once
  rw [List.map_append, List.nodup_append] at split
  refine ⟨⟨fun e member => distinct.known e (List.mem_append_left _ member), split.1⟩, field, known, ?_⟩
  intro member
  exact split.2.2 _ member _ (by simp [known]) rfl

omit [DecidableEq F] in
theorem clean_append_iff {fields : List (String × Json)} {entry : String × Json} :
    decoder.Clean spoils (fields ++ [entry]) ↔
      decoder.Clean spoils fields ∧
        ∃ field, decoder.fieldOf entry.1 = some field ∧ spoils field entry.2 = false ∧
          some field ∉ fields.map fun entry => decoder.fieldOf entry.1 := by
  constructor
  · intro clean
    obtain ⟨field, known, fine⟩ := clean.known entry (by simp)
    obtain ⟨earlier, other, same, fresh⟩ := distinct_append clean.distinct
    rw [known] at same
    cases same
    exact ⟨⟨fun e member => clean.known e (List.mem_append_left _ member), earlier.once⟩, field, known, fine, fresh⟩
  · rintro ⟨clean, field, known, fine, fresh⟩
    constructor
    · intro e member
      rcases List.mem_append.mp member with earlier | last
      · exact clean.known e earlier
      · rw [List.mem_singleton.mp last]
        exact ⟨field, known, fine⟩
    · rw [List.map_append, List.nodup_append]
      refine ⟨clean.once, by simp, ?_⟩
      intro earlier member last same equal
      simp only [List.map_cons, List.map_nil, List.mem_singleton] at same
      rw [equal, same, known] at member
      exact fresh member

theorem visitField_scanned {slots : S} {fields : List (String × Json)} {scan : FieldScan F S}
    (reads : decoder.Reads put spoils) (scanned : decoder.Scanned put spoils slots fields scan)
    (entry : String × Json) :
    ∃ next, decoder.visitField scan entry = .ok next ∧
      decoder.Scanned put spoils slots (fields ++ [entry]) next := by
  unfold visitField
  cases known : decoder.fieldOf entry.1 with
  | none =>
    refine ⟨_, rfl, ?_, ?_, ?_⟩
    · intro field
      simp [scanned.seen field, known]
    · rw [clean_append_iff]
      simp [known]
    · intro distinct
      obtain ⟨_, field, same, _⟩ := distinct_append distinct
      rw [known] at same
      cases same
  | some field =>
    by_cases repeated : field ∈ scan.seen
    · have held := (scanned.seen field).mp repeated
      refine ⟨_, if_pos repeated, ?_, ?_, ?_⟩
      · intro other
        simp only [List.map_append, List.mem_append, scanned.seen other, List.map_cons, List.map_nil,
          List.mem_singleton, known, Option.some.injEq]
        constructor
        · exact Or.inl
        · rintro (member | rfl)
          · exact member
          · exact held
      · rw [clean_append_iff]
        constructor
        · intro fine
          cases fine
        · rintro ⟨_, other, same, _, fresh⟩
          rw [known] at same
          cases same
          exact absurd held fresh
      · intro distinct
        obtain ⟨_, other, same, fresh⟩ := distinct_append distinct
        rw [known] at same
        cases same
        exact absurd held fresh
    · have fresh : some field ∉ fields.map fun entry => decoder.fieldOf entry.1 :=
        fun member => repeated ((scanned.seen field).mpr member)
      refine ⟨{ slots := put field entry.2 scan.slots, seen := field :: scan.seen,
                 spoiled := scan.spoiled || spoils field entry.2 }, ?_, ?_, ?_, ?_⟩
      · simp only [if_neg repeated, reads field entry.2 scan.slots]
        rfl
      · intro other
        simp only [List.mem_cons, scanned.seen other, List.map_append, List.mem_append, List.map_cons, List.map_nil,
          known, Option.some.injEq, List.not_mem_nil, or_false]
        exact or_comm
      · rw [clean_append_iff, ← scanned.clean, Bool.or_eq_false_iff]
        constructor
        · rintro ⟨unspoiled, fine⟩
          exact ⟨unspoiled, field, known, fine, fresh⟩
        · rintro ⟨unspoiled, other, same, fine, _⟩
          rw [known] at same
          cases same
          exact ⟨unspoiled, fine⟩
      · intro distinct
        rw [List.foldl_append, ← scanned.slots (distinct_append distinct).1]
        simp [putEntry, known]

theorem foldlM_visitField {slots : S} (reads : decoder.Reads put spoils) (rest : List (String × Json)) :
    ∀ (fields : List (String × Json)) (scan : FieldScan F S), decoder.Scanned put spoils slots fields scan →
      ∃ last, rest.foldlM decoder.visitField scan = .ok last ∧
        decoder.Scanned put spoils slots (fields ++ rest) last := by
  induction rest with
  | nil =>
    intro fields scan scanned
    exact ⟨scan, rfl, by simpa using scanned⟩
  | cons entry rest ih =>
    intro fields scan scanned
    obtain ⟨next, step, after⟩ := visitField_scanned reads scanned entry
    obtain ⟨last, run, done⟩ := ih _ next after
    refine ⟨last, ?_, ?_⟩
    · rw [List.foldlM_cons, step]
      exact run
    · simpa using done

/-- Reading never fails, and the object is unspoiled exactly when its fields are clean. -/
theorem visitFields_scanned (reads : decoder.Reads put spoils) (slots : S) (fields : List (String × Json)) :
    ∃ scan, decoder.visitFields slots fields = .ok scan ∧ decoder.Scanned put spoils slots fields scan := by
  have none_read : decoder.Clean spoils [] := ⟨fun _ member => absurd member List.not_mem_nil, List.nodup_nil⟩
  have nothing : decoder.Scanned put spoils slots [] { slots := slots, seen := [], spoiled := false } :=
    ⟨fun _ => by simp, ⟨fun _ => none_read, fun _ => rfl⟩, fun _ => rfl⟩
  exact foldlM_visitField reads fields [] _ nothing

omit [DecidableEq F] in
theorem Distinct.perm {fields others : List (String × Json)} (distinct : decoder.Distinct fields)
    (same : fields.Perm others) : decoder.Distinct others :=
  ⟨fun entry member => distinct.known entry (same.mem_iff.mpr member),
    (same.map _).nodup_iff.mp distinct.once⟩

omit [DecidableEq F] in
theorem Clean.perm {fields others : List (String × Json)} (clean : decoder.Clean spoils fields)
    (same : fields.Perm others) : decoder.Clean spoils others :=
  ⟨fun entry member => clean.known entry (same.mem_iff.mpr member),
    (same.map _).nodup_iff.mp clean.once⟩

omit [DecidableEq F] in
/-- The order of distinct fields does not matter, when the slots of two fields are apart. -/
theorem Distinct.foldl_perm (apart : ∀ f g, f ≠ g → ∀ v w s, put g w (put f v s) = put f v (put g w s))
    {fields others : List (String × Json)} (distinct : decoder.Distinct fields) (same : fields.Perm others)
    (slots : S) : fields.foldl (decoder.putEntry put) slots = others.foldl (decoder.putEntry put) slots := by
  refine same.foldl_eq' ?_ slots
  intro x inX y inY slots
  obtain ⟨f, knownX⟩ := distinct.known x inX
  obtain ⟨g, knownY⟩ := distinct.known y inY
  by_cases equal : x = y
  · rw [equal]
  · have different : f ≠ g := by
      intro same
      refine equal (List.inj_on_of_nodup_map distinct.once inX inY ?_)
      rw [knownX, knownY, same]
    simp only [putEntry, knownX, knownY]
    exact apart f g different _ _ _

omit [DecidableEq F] in
/-- One of several distinct fields may be read last. -/
theorem Distinct.foldl_last (apart : ∀ f g, f ≠ g → ∀ v w s, put g w (put f v s) = put f v (put g w s))
    {fields : List (String × Json)} (distinct : decoder.Distinct fields) {entry : String × Json}
    (member : entry ∈ fields) {field : F} (known : decoder.fieldOf entry.1 = some field) (slots : S) :
    ∃ before, fields.foldl (decoder.putEntry put) slots = put field entry.2 before := by
  obtain ⟨front, back, rfl⟩ := List.append_of_mem member
  have moved : (front ++ entry :: back).Perm ((front ++ back) ++ [entry]) :=
    List.perm_middle.trans (List.perm_append_singleton _ _).symm
  refine ⟨(front ++ back).foldl (decoder.putEntry put) slots, ?_⟩
  rw [distinct.foldl_perm apart moved, List.foldl_append]
  simp [putEntry, known]

end FieldDecoder

end Sealwire
