import Mathlib.Data.List.Basic

namespace Sealwire

variable {α : Type} [DecidableEq α]

/-- The fields, one after the other with the separator between them. -/
def joined (sep : α) (fields : List (List α)) : List α := [sep].intercalate fields

/-- The pieces between the separators, whether these stand in a field or between two. -/
def pieces (sep : α) (fields : List (List α)) : List (List α) := fields.flatMap fun field => field.splitOn sep

/-- How many pieces each field gives. -/
def cuts (sep : α) (fields : List (List α)) : List Nat := fields.map fun field => (field.splitOn sep).length

variable {sep : α} {fields others : List (List α)}

theorem splitOn_joined (field : List α) (rest : List (List α)) :
    (joined sep (field :: rest)).splitOn sep = pieces sep (field :: rest) := by
  induction rest generalizing field with
  | nil => simp [joined, pieces]
  | cons next rest ih =>
    have apart : joined sep (field :: next :: rest) = field ++ sep :: joined sep (next :: rest) := by
      simp [joined, List.intercalate_cons_cons]
    rw [apart, List.splitOn_append_cons_self, ih]
    rfl

theorem splitOn_injective : Function.Injective fun text : List α => text.splitOn sep := by
  intro text other same
  have glued := congrArg ([sep].intercalate ·) same
  simpa only [List.intercalate_splitOn] using glued

/-- Two lists of fields give one text when they give the same pieces. -/
theorem joined_eq_iff (some_ : fields ≠ []) (others_ : others ≠ []) :
    joined sep fields = joined sep others ↔ pieces sep fields = pieces sep others := by
  obtain ⟨field, rest, rfl⟩ := List.exists_cons_of_ne_nil some_
  obtain ⟨other, rest', rfl⟩ := List.exists_cons_of_ne_nil others_
  rw [← splitOn_joined, ← splitOn_joined]
  exact ⟨congrArg (List.splitOn sep), fun same => splitOn_injective same⟩

/-- The pieces and where the fields are cut tell the fields. -/
theorem eq_of_pieces_of_cuts (same : pieces sep fields = pieces sep others) (alike : cuts sep fields = cuts sep others) :
    fields = others := by
  induction fields generalizing others with
  | nil =>
    cases others with
    | nil => rfl
    | cons other rest => cases alike
  | cons field fields ih =>
    cases others with
    | nil => cases alike
    | cons other others =>
      obtain ⟨first, later⟩ := List.cons.inj alike
      obtain ⟨field_same, rest_same⟩ := List.append_inj same first
      rw [splitOn_injective field_same, ih rest_same later]

end Sealwire
