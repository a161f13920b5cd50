import Mathlib.Logic.Basic

namespace Sealwire

universe u v

variable {S : Type u} {M : Type v}

/-- The states that moves lead to, each move one that may be made where it is made. -/
inductive Reaches (step : S → M → S) (may : S → M → Prop) (start : S) : S → Prop
  | start : Reaches step may start start
  | next {s : S} {m : M} (reached : Reaches step may start s) (allowed : may s m) : Reaches step may start (step s m)

/-- Every move of the list may be made where it is made. -/
def MayRun (step : S → M → S) (may : S → M → Prop) : S → List M → Prop
  | _, [] => True
  | s, m :: rest => may s m ∧ MayRun step may (step s m) rest

instance decidableMayRun (step : S → M → S) (may : S → M → Prop) [∀ s m, Decidable (may s m)] (s : S) :
    (moves : List M) → Decidable (MayRun step may s moves)
  | [] => .isTrue trivial
  | m :: rest =>
    have := decidableMayRun step may (step s m) rest
    inferInstanceAs (Decidable (may s m ∧ MayRun step may (step s m) rest))

theorem MayRun.of_all {step : S → M → S} {may : S → M → Prop} (always : ∀ s m, may s m) {s : S} :
    {moves : List M} → MayRun step may s moves
  | [] => trivial
  | _ :: _ => ⟨always _ _, MayRun.of_all always⟩

namespace Reaches

variable {step : S → M → S} {may : S → M → Prop} {start s : S}

/-- What holds at the start and is kept by every move holds in every state reached. -/
theorem invariant {P : S → Prop} (reached : Reaches step may start s) (holds : P start)
    (keeps : ∀ s m, P s → may s m → P (step s m)) : P s := by
  induction reached with
  | start => exact holds
  | next _ allowed ih => exact keeps _ _ ih allowed

theorem mono {weaker : S → M → Prop} (reached : Reaches step may start s) (weaken : ∀ s m, may s m → weaker s m) :
    Reaches step weaker start s := by
  induction reached with
  | start => exact .start
  | next _ allowed ih => exact .next ih (weaken _ _ allowed)

theorem trans {t : S} (first : Reaches step may start s) (second : Reaches step may s t) :
    Reaches step may start t := by
  induction second with
  | start => exact first
  | next _ allowed ih => exact .next ih allowed

theorem foldl {moves : List M} (run : MayRun step may start moves) :
    Reaches step may start (moves.foldl step start) := by
  induction moves generalizing start with
  | nil => exact .start
  | cons m rest ih => exact (Reaches.next .start run.1).trans (ih run.2)

end Reaches

/-- How many moves of the list the test picks, each put to it where the move is made. -/
def countAlong (step : S → M → S) (test : S → M → Bool) : S → List M → Nat
  | _, [] => 0
  | s, m :: rest => (bif test s m then 1 else 0) + countAlong step test (step s m) rest

section Counting

variable {step : S → M → S} {may : S → M → Prop} {test : S → M → Bool} {P : S → Prop}

/-- A test that picks nothing where `P` holds picks nothing along a run that keeps `P`. -/
theorem countAlong_eq_zero (keeps : ∀ s m, P s → may s m → P (step s m))
    (never : ∀ s m, P s → may s m → test s m = false) {moves : List M} {s : S} (holds : P s)
    (run : MayRun step may s moves) : countAlong step test s moves = 0 := by
  induction moves generalizing s with
  | nil => rfl
  | cons m rest ih =>
    simp only [countAlong, never s m holds run.1, cond_false, Nat.zero_add]
    exact ih (keeps s m holds run.1) run.2

/-- A test whose pick leads to `P`, where it picks nothing, picks once at most. -/
theorem countAlong_le_one {I : S → Prop} (invariant : ∀ s m, I s → may s m → I (step s m))
    (keeps : ∀ s m, P s → may s m → P (step s m)) (never : ∀ s m, P s → may s m → test s m = false)
    (spends : ∀ s m, I s → test s m = true → P (step s m)) {moves : List M} {s : S} (holds : I s)
    (run : MayRun step may s moves) : countAlong step test s moves ≤ 1 := by
  induction moves generalizing s with
  | nil => exact Nat.zero_le 1
  | cons m rest ih =>
    cases picked : test s m with
    | false =>
      simp only [countAlong, picked, cond_false, Nat.zero_add]
      exact ih (invariant s m holds run.1) run.2
    | true =>
      have spent := countAlong_eq_zero keeps never (spends s m holds picked) run.2
      simp only [countAlong, picked, cond_true, spent]
      omega

end Counting

end Sealwire
