namespace Sealwire

/-- A computation that may fail arrives only where each of its steps does. -/
theorem bind_eq_ok {ε α β : Type} {x : Except ε α} {f : α → Except ε β} {b : β} (bound : (x >>= f) = .ok b) :
    ∃ a, x = .ok a ∧ f a = .ok b := by
  cases x with
  | error error => cases bound
  | ok a => exact ⟨a, rfl, bound⟩

/-- What each step keeps, a fold of steps that arrives keeps. -/
theorem foldlM_keeps {ε α β : Type} {step : β → α → Except ε β} {P : β → Prop}
    (keeps : ∀ b a c, P b → step b a = .ok c → P c) {l : List α} {b c : β} (holds : P b)
    (done : l.foldlM step b = .ok c) : P c := by
  induction l generalizing b with
  | nil =>
    cases done
    exact holds
  | cons a rest ih =>
    obtain ⟨middle, first, later⟩ := bind_eq_ok done
    exact ih (keeps b a middle holds first) later

end Sealwire
