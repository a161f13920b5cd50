import Sealwire.Lib.Table

namespace Sealwire

universe u v

/-- How the rows of a table are opened: each by a key of its own, and until their times by keys it had before. -/
structure Rotating (K : Type u) (R : Type v) where
  own : R → K
  honours : R → K → Nat → Prop

namespace Rotating

variable {K : Type u} {R : Type v} (ρ : Rotating K R)

def Bears (row : R) (key : K) : Prop :=
  ρ.own row = key ∨ ∃ deadline, ρ.honours row key deadline

variable [DecidableEq K]

/-- Every row is under its own key, and no key opens two rows. -/
structure Sound (rows : Table K R) : Prop where
  filed : ∀ key row, rows.get key = some row → ρ.own row = key
  current : ∀ key row deadline, rows.get key = some row → ¬ρ.honours row (ρ.own row) deadline
  apart : ∀ one first other second key, rows.get one = some first → rows.get other = some second →
    ρ.Bears first key → ρ.Bears second key → one = other

/-- Nothing opens with the key. -/
def Unknown (rows : Table K R) (key : K) : Prop :=
  ∀ other row, rows.get other = some row → ¬ρ.Bears row key

/-- The key opens nothing but, until then, what has replaced it. -/
def EndsBy (rows : Table K R) (key : K) (last : Nat) : Prop :=
  ∀ other row, rows.get other = some row → ρ.own row ≠ key ∧ ∀ deadline, ρ.honours row key deadline → deadline ≤ last

variable {ρ} {rows fewer : Table K R} {key : K} {row : R}

theorem sound_empty : ρ.Sound (∅ : Table K R) where
  filed _ _ found := by
    rw [Table.get_empty] at found
    cases found
  current _ _ _ found := by
    rw [Table.get_empty] at found
    cases found
  apart _ _ _ _ _ found := by
    rw [Table.get_empty] at found
    cases found

namespace Sound

/-- Rows may be removed. -/
theorem sub (sound : ρ.Sound rows) (kept : ∀ key row, fewer.get key = some row → rows.get key = some row) :
    ρ.Sound fewer where
  filed key row found := sound.filed key row (kept key row found)
  current key row deadline found := sound.current key row deadline (kept key row found)
  apart one first other second key found also bears beside :=
    sound.apart one first other second key (kept one first found) (kept other second also) bears beside

theorem bears_own (sound : ρ.Sound rows) (found : rows.get key = some row) : ρ.Bears row key :=
  .inl (sound.filed key row found)

/-- A new row takes the place of those whose keys it honours. -/
theorem put (sound : ρ.Sound rows) (kept : ∀ key row, fewer.get key = some row → rows.get key = some row)
    (fresh : ρ.Unknown rows key) (own : ρ.own row = key)
    (replaces : ∀ old deadline, ρ.honours row old deadline →
      ∃ was before, rows.get was = some before ∧ fewer.get was = none ∧ ρ.Bears before old) :
    ρ.Sound (fewer.put key row) := by
  have now (other : K) (found : R) (there : (fewer.put key row).get other = some found) :
      other = key ∧ found = row ∨ other ≠ key ∧ fewer.get other = some found := by
    rw [Table.get_put] at there
    split at there
    · rename_i same
      cases there
      exact .inl ⟨same, rfl⟩
    · rename_i apart
      exact .inr ⟨apart, there⟩
  have not_both (other : K) (found : R) (there : fewer.get other = some found) (token : K) (bears : ρ.Bears row token)
      (also : ρ.Bears found token) : False := by
    rcases bears with is | ⟨deadline, honours⟩
    · rw [own] at is
      rw [← is] at also
      exact fresh other found (kept other found there) also
    · obtain ⟨was, before, old, gone, bore⟩ := replaces token deadline honours
      have same := sound.apart was before other found token old (kept other found there) bore also
      rw [same, there] at gone
      cases gone
  refine ⟨fun other found there => ?_, fun other found deadline there honours => ?_,
    fun one first other second token there also bears beside => ?_⟩
  · rcases now other found there with ⟨rfl, rfl⟩ | ⟨-, was⟩
    · exact own
    · exact sound.filed other found (kept other found was)
  · rcases now other found there with ⟨rfl, rfl⟩ | ⟨-, was⟩
    · obtain ⟨old, before, there, -, bore⟩ := replaces _ deadline honours
      rw [own] at bore
      exact fresh old before there bore
    · exact sound.current other found deadline (kept other found was) honours
  · rcases now one first there with ⟨rfl, rfl⟩ | ⟨-, was⟩
    · rcases now other second also with ⟨rfl, rfl⟩ | ⟨-, beside_was⟩
      · rfl
      · exact (not_both other second beside_was token bears beside).elim
    · rcases now other second also with ⟨rfl, rfl⟩ | ⟨-, beside_was⟩
      · exact (not_both one first was token beside bears).elim
      · exact sound.apart one first other second token (kept one first was) (kept other second beside_was) bears beside

/-- A row may change in what neither names nor opens it. -/
theorem modify (sound : ρ.Sound rows) (change : R → R) (own : ∀ row, ρ.own (change row) = ρ.own row)
    (honours : ∀ row old deadline, ρ.honours (change row) old deadline ↔ ρ.honours row old deadline) :
    ρ.Sound (rows.modify key change) := by
  have bears (row : R) (token : K) : ρ.Bears (change row) token ↔ ρ.Bears row token := by
    simp only [Bears, own, honours]
  have was (other : K) (found : R) (there : (rows.modify key change).get other = some found) :
      ∃ before, rows.get other = some before ∧ (found = before ∨ found = change before) := by
    rw [Table.get_modify] at there
    split at there
    · rename_i same
      obtain ⟨before, held, rfl⟩ := Option.map_eq_some_iff.mp there
      exact ⟨before, same ▸ held, .inr rfl⟩
    · exact ⟨found, there, .inl rfl⟩
  refine ⟨fun other found there => ?_, fun other found deadline there => ?_,
    fun one first other second token there also => ?_⟩
  · obtain ⟨before, held, rfl | rfl⟩ := was other found there
    · exact sound.filed other found held
    · rw [own]
      exact sound.filed other before held
  · obtain ⟨before, held, rfl | rfl⟩ := was other found there
    · exact sound.current other found deadline held
    · rw [own, honours]
      exact sound.current other before deadline held
  · obtain ⟨before, held, is⟩ := was one first there
    obtain ⟨beside, held_too, is_beside⟩ := was other second also
    have first_bears : ρ.Bears first token → ρ.Bears before token := by
      rcases is with rfl | rfl
      · exact id
      · exact (bears before token).mp
    have second_bears : ρ.Bears second token → ρ.Bears beside token := by
      rcases is_beside with rfl | rfl
      · exact id
      · exact (bears beside token).mp
    exact fun one_bears other_bears => sound.apart one before other beside token held held_too (first_bears one_bears)
      (second_bears other_bears)

end Sound

/-- What one rotation can do: rows go, stay, or come in under a fresh key. A new row honours what one of the rows before
it did, or that row's own key for a while. -/
structure Turns (ρ : Rotating K R) (fresh : K → Prop) (latest : Nat) (rows next : Table K R) : Prop where
  each : ∀ key row, next.get key = some row →
    (∃ before, rows.get key = some before ∧ ρ.own row = ρ.own before ∧
        ∀ old deadline, ρ.honours row old deadline → ρ.honours before old deadline) ∨
      fresh key ∧ ρ.own row = key ∧ ∀ old deadline, ρ.honours row old deadline →
        ∃ was before, rows.get was = some before ∧ (ρ.honours before old deadline ∨ ρ.own before = old ∧ deadline ≤ latest)

namespace Turns

variable {fresh : K → Prop} {latest last : Nat} {next : Table K R} {dead : K}

theorem sub (kept : ∀ key row, fewer.get key = some row → rows.get key = some row) : ρ.Turns fresh latest rows fewer where
  each key row found := .inl ⟨row, kept key row found, rfl, fun _ _ honours => honours⟩

theorem put (kept : ∀ key row, fewer.get key = some row → rows.get key = some row) (is_fresh : fresh key)
    (own : ρ.own row = key) (carried : ∀ old deadline, ρ.honours row old deadline →
      ∃ was before, rows.get was = some before ∧ (ρ.honours before old deadline ∨ ρ.own before = old ∧ deadline ≤ latest)) :
    ρ.Turns fresh latest rows (fewer.put key row) where
  each other found there := by
    rw [Table.get_put] at there
    split at there
    · rename_i same
      cases there
      rw [same]
      exact .inr ⟨is_fresh, own, carried⟩
    · exact .inl ⟨found, kept other found there, rfl, fun _ _ honours => honours⟩

/-- A key that ends by some time ends by then whatever is rotated later. -/
theorem endsBy (turns : ρ.Turns fresh latest rows next) (filed : ∀ key, fresh key → key ≠ dead)
    (ends : ρ.EndsBy rows dead last) : ρ.EndsBy next dead last := by
  intro key row found
  rcases turns.each key row found with ⟨before, held, own, honours⟩ | ⟨is_fresh, own, carried⟩
  · obtain ⟨apart, by_then⟩ := ends key before held
    exact ⟨own ▸ apart, fun deadline honoured => by_then deadline (honours dead deadline honoured)⟩
  · refine ⟨own ▸ filed key is_fresh, fun deadline honoured => ?_⟩
    obtain ⟨was, before, held, still | ⟨is_own, -⟩⟩ := carried dead deadline honoured
    · exact (ends was before held).2 deadline still
    · exact absurd is_own (ends was before held).1

/-- The own key of a row that is replaced, or removed, opens nothing once its time is over. -/
theorem ends_replaced (turns : ρ.Turns fresh latest rows next) (sound : ρ.Sound rows) (filed : ρ.Sound next)
    (was_own : rows.get dead = some row) (gone : next.get dead = none) : ρ.EndsBy next dead latest := by
  have bears : ρ.Bears row dead := sound.bears_own was_own
  have not_own (key : K) (found : R) (there : next.get key = some found) : ρ.own found ≠ dead := by
    intro same
    have is_key := filed.filed key found there
    rw [← is_key, same, gone] at there
    cases there
  intro key found there
  refine ⟨not_own key found there, fun deadline honoured => ?_⟩
  rcases turns.each key found there with ⟨before, held, -, honours⟩ | ⟨-, -, carried⟩
  · have same := sound.apart key before dead row dead held was_own (.inr ⟨deadline, honours dead deadline honoured⟩) bears
    rw [same, gone] at there
    cases there
  · obtain ⟨was, before, held, still | ⟨-, in_time⟩⟩ := carried dead deadline honoured
    · have same := sound.apart was before dead row dead held was_own (.inr ⟨deadline, still⟩) bears
      have current := sound.current was before deadline held
      rw [sound.filed was before held, same] at current
      exact absurd still current
    · exact in_time

end Turns

end Rotating

end Sealwire
