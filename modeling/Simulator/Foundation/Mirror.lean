import Mathlib.Logic.Function.Basic
import Mathlib.Data.List.Basic

/-!
# Tables that mirror a list

A reader that is told the changes of a keyed list keeps a table.  `Mirrors` says that
the table has, under the keys of a set, exactly what the list has: there is a value
under a key exactly when there is an entry with that key, and the two are related.

The relation need not be equality.  A reader may be told less of an entry than there is to it,
and then the table has what was told.  The set of keys is there so that several lists with
different keys can share a table: of each list one says what its own keys have, and a change
under the key of one list is nothing to the others (`Mirrors.congr`).

Changing the table under one key (`Mirrors.update`) covers what can happen to the list: an entry
is removed (`Mirrors.erase`), changed in place (`Mirrors.replace`), or added at the end
(`Mirrors.push`).  In each case the keys of the list have to be different before, and they are
different after.  The order of the list is not mirrored, since a table has none; that an entry
is added at the end is only what programs do.
-/

namespace Simulator
namespace Foundation

universe u

variable {κ α β : Type u}

/-- Under the keys in `P` the table has what the list has. -/
structure Mirrors (P : κ → Prop) (key : β → κ) (R : α → β → Prop) (table : κ → Option α)
    (l : List β) : Prop where
  owned : ∀ b ∈ l, P (key b)
  sound : ∀ k a, P k → table k = some a → ∃ b ∈ l, key b = k ∧ R a b
  complete : ∀ b ∈ l, ∃ a, table (key b) = some a ∧ R a b

section Mirrors

variable {P : κ → Prop} {key : β → κ} {R : α → β → Prop} {table : κ → Option α} {l : List β}

theorem mirrors_nil : Mirrors P key R (fun _ => none) [] where
  owned := fun _ hb => absurd hb List.not_mem_nil
  sound := fun _ _ _ h => by cases h
  complete := fun _ hb => absurd hb List.not_mem_nil

theorem Mirrors.congr (h : Mirrors P key R table l) {table' : κ → Option α}
    (htable : ∀ k, P k → table' k = table k) : Mirrors P key R table' l where
  owned := h.owned
  sound := fun k a hk ha => h.sound k a hk (htable k hk ▸ ha)
  complete := fun b hb => by
    obtain ⟨a, ha, hR⟩ := h.complete b hb
    exact ⟨a, (htable _ (h.owned b hb)).trans ha, hR⟩

theorem Mirrors.eq_none (h : Mirrors P key R table l) {k : κ} (hk : P k) (hl : ∀ b ∈ l, key b ≠ k) :
    table k = none := by
  cases htable : table k with
  | none => rfl
  | some a =>
    obtain ⟨b, hb, hkey, -⟩ := h.sound k a hk htable
    exact absurd hkey (hl b hb)

variable [DecidableEq κ]

/-- **A change under one key.** -/
theorem Mirrors.update (h : Mirrors P key R table l) {k : κ} {o : Option α} {l' : List β}
    (hother : ∀ b, key b ≠ k → (b ∈ l' ↔ b ∈ l))
    (hsound : ∀ a, o = some a → ∃ b ∈ l', key b = k ∧ R a b)
    (hcomplete : ∀ b ∈ l', key b = k → P k ∧ ∃ a, o = some a ∧ R a b) :
    Mirrors P key R (Function.update table k o) l' where
  owned := fun b hb => by
    by_cases hkey : key b = k
    · rw [hkey]
      exact (hcomplete b hb hkey).1
    · exact h.owned b ((hother b hkey).mp hb)
  sound := fun k' a hk' ha => by
    by_cases hkey : k' = k
    · subst hkey
      rw [Function.update_self] at ha
      exact hsound a ha
    · rw [Function.update_of_ne hkey] at ha
      obtain ⟨b, hb, rfl, hR⟩ := h.sound k' a hk' ha
      exact ⟨b, (hother b hkey).mpr hb, rfl, hR⟩
  complete := fun b hb => by
    by_cases hkey : key b = k
    · rw [hkey, Function.update_self]
      exact (hcomplete b hb hkey).2
    · rw [Function.update_of_ne hkey]
      exact h.complete b ((hother b hkey).mp hb)

theorem Mirrors.erase {pre post : List β} {b : β} (h : Mirrors P key R table (pre ++ b :: post))
    (hb : ∀ x ∈ pre ++ post, key x ≠ key b) :
    Mirrors P key R (Function.update table (key b) none) (pre ++ post) := by
  refine h.update ?_ (fun a ha => by cases ha) fun x hx hkey => absurd hkey (hb x hx)
  intro x hx
  have hne : x ≠ b := fun heq => hx (heq ▸ rfl)
  simp [hne]

theorem Mirrors.replace {pre post : List β} {b b' : β} {a' : α}
    (h : Mirrors P key R table (pre ++ b :: post)) (hb : ∀ x ∈ pre ++ post, key x ≠ key b)
    (hkey : key b' = key b) (hR : R a' b') :
    Mirrors P key R (Function.update table (key b) (some a')) (pre ++ b' :: post) := by
  refine h.update ?_ ?_ ?_
  · intro x hx
    have hne : x ≠ b := fun heq => hx (heq ▸ rfl)
    have hne' : x ≠ b' := fun heq => hx (heq ▸ hkey)
    simp [hne, hne']
  · intro a ha
    obtain rfl := Option.some.inj ha
    exact ⟨b', by simp, hkey, hR⟩
  · intro x hx hxb
    refine ⟨h.owned b (by simp), a', rfl, ?_⟩
    rcases List.mem_append.mp hx with hx | hx
    · exact absurd hxb (hb x (List.mem_append_left _ hx))
    · rcases List.mem_cons.mp hx with rfl | hx
      · exact hR
      · exact absurd hxb (hb x (List.mem_append_right _ hx))

theorem Mirrors.push (h : Mirrors P key R table l) {b : β} {a : α} (hP : P (key b))
    (hb : ∀ x ∈ l, key x ≠ key b) (hR : R a b) :
    Mirrors P key R (Function.update table (key b) (some a)) (l ++ [b]) := by
  refine h.update ?_ ?_ fun x hx hxb => ⟨hP, a, rfl, ?_⟩
  · intro x hx
    have hne : x ≠ b := fun heq => hx (heq ▸ rfl)
    simp [hne]
  · intro a' ha
    obtain rfl := Option.some.inj ha
    exact ⟨b, by simp, rfl, hR⟩
  · rcases List.mem_append.mp hx with hx | hx
    · exact absurd hxb (hb x hx)
    · rw [List.mem_singleton.mp hx]
      exact hR

end Mirrors

end Foundation
end Simulator
