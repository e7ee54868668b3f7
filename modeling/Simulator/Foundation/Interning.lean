import Mathlib.Algebra.Order.Ring.Int
import Mathlib.Data.List.Perm.Subperm
import Mathlib.Data.List.Dedup
import Simulator.Foundation.Loops

/-!
# Interning tables

A table that gives every key it meets a code, the first free one, and the same code
when it meets the key again.  `Interned table next` says that the entries of the table
were made in this way: no key has two entries, and the codes are `0`, `1`, up to `next`,
which is the next one to give.

Such tables stand where long texts are to be written many times: the text is written once, with
its code, and the code stands for it from then on.  Whoever reads what has been written needs
two things of the table, and both have to hold while the table grows.

Codes are stable, since entries are only added (`code_append`): what was written early is read
with the last state of the table, which has more entries than the one it was written with.  And
a code stands for one key (`Interned.eq_of_code_eq`), so that it can be read at all.

`foldl_update_eq` is about the table turned around: writing each key under its code makes a map
that takes every code back to its key.  That map is what a reader gets, and that it is found
where it was written does not depend on the order of the entries.
-/

namespace Simulator
namespace Foundation

variable {α β γ δ : Type}

/-- Writing values under distinct keys: each is found where it was written. -/
theorem foldl_update_eq [DecidableEq γ] {key : β → γ} {l : List β}
    (hkey : ∀ a ∈ l, ∀ b ∈ l, key a = key b → a = b) (value : β → δ) (m : γ → Option δ)
    {a : β} (ha : a ∈ l) :
    l.foldl (fun (m : γ → Option δ) b => Function.update m (key b) (some (value b))) m (key a) =
      some (value a) := by
  refine foldl_establishes (I := fun _ => True)
    (Q := fun a (m : γ → Option δ) => a ∈ l → m (key a) = some (value a)) (fun _ _ _ _ => trivial)
    (fun m _ b _ _ => Function.update_self ..) ?_ trivial a ha ha
  intro m _ b hb a hQ ha
  by_cases hab : key a = key b
  · rw [hkey a ha b hb hab]
    exact Function.update_self ..
  · rw [Function.update_of_ne hab]
    exact hQ ha

variable [DecidableEq α]

/-- The code of a key. -/
def code (table : List (α × ℤ)) (x : α) : ℤ := (table.lookup x).getD 0

/-- A table that hands out the codes from `0` on. -/
structure Interned (table : List (α × ℤ)) (next : ℤ) : Prop where
  next_eq : next = table.length
  keys : (table.map Prod.fst).Nodup
  codes : table.map Prod.snd = (List.range table.length).map Nat.cast

omit [DecidableEq α] in
theorem interned_nil : Interned ([] : List (α × ℤ)) 0 := ⟨rfl, List.nodup_nil, rfl⟩

variable {table : List (α × ℤ)} {next : ℤ} {x y : α}

theorem lookup_eq_none : table.lookup x = none ↔ x ∉ table.map Prod.fst := by
  simp only [List.lookup_eq_none_iff, bne_iff_ne, List.mem_map, not_exists, not_and]
  exact ⟨fun h e he hx => h e he hx.symm, fun h e he hx => h e he hx.symm⟩

theorem mem_of_lookup {n : ℤ} (h : table.lookup x = some n) : (x, n) ∈ table := by
  obtain ⟨l₁, l₂, rfl, -⟩ := List.lookup_eq_some_iff.mp h
  simp

theorem exists_lookup (h : x ∈ table.map Prod.fst) : ∃ n, table.lookup x = some n := by
  cases hx : table.lookup x with
  | none => exact absurd h (lookup_eq_none.mp hx)
  | some n => exact ⟨n, rfl⟩

theorem mem_code (h : x ∈ table.map Prod.fst) : (x, code table x) ∈ table := by
  obtain ⟨n, hn⟩ := exists_lookup h
  rw [code, hn]
  exact mem_of_lookup hn

/-- **Codes are stable.** -/
theorem code_append (table' : List (α × ℤ)) (h : x ∈ table.map Prod.fst) :
    code (table ++ table') x = code table x := by
  obtain ⟨n, hn⟩ := exists_lookup h
  rw [code, code, List.lookup_append, hn]
  rfl

theorem code_concat (h : table.lookup x = none) (n : ℤ) : code (table ++ [(x, n)]) x = n := by
  rw [code, List.lookup_append, h, List.lookup_cons_self]
  rfl

namespace Interned

/-- **A key that is met for the first time.** -/
theorem concat (h : Interned table next) (hx : table.lookup x = none) :
    Interned (table ++ [(x, next)]) (next + 1) where
  next_eq := by
    rw [h.next_eq, List.length_append, Nat.cast_add]
    rfl
  keys := by
    rw [List.map_append]
    refine h.keys.append (List.nodup_singleton _) ?_
    rw [List.map_singleton, List.disjoint_singleton]
    exact lookup_eq_none.mp hx
  codes := by
    rw [List.map_append, h.codes, List.length_append, List.length_singleton, List.range_succ,
      List.map_append, h.next_eq]
    rfl

omit [DecidableEq α] in
theorem nodup_codes (h : Interned table next) : (table.map Prod.snd).Nodup := by
  rw [h.codes]
  exact List.nodup_range.map Nat.cast_injective

/-- **A code stands for one key.** -/
theorem eq_of_code_eq (h : Interned table next) (hx : x ∈ table.map Prod.fst)
    (hy : y ∈ table.map Prod.fst) (hcode : code table x = code table y) : x = y :=
  congrArg Prod.fst (List.inj_on_of_nodup_map h.nodup_codes (mem_code hx) (mem_code hy) hcode)

omit [DecidableEq α] in
theorem code_bounds (h : Interned table next) {e : α × ℤ} (he : e ∈ table) :
    0 ≤ e.2 ∧ e.2 < table.length := by
  have hmem : e.2 ∈ table.map Prod.snd := List.mem_map_of_mem he
  rw [h.codes, List.mem_map] at hmem
  obtain ⟨i, hi, hei⟩ := hmem
  have hlt := List.mem_range.mp hi
  omega

theorem length_le (h : Interned table next) {l : List α} (hl : ∀ e ∈ table, e.1 ∈ l) :
    table.length ≤ l.dedup.length := by
  have hsub : table.map Prod.fst ⊆ l.dedup := fun y hy => by
    obtain ⟨e, he, rfl⟩ := List.mem_map.mp hy
    exact List.mem_dedup.mpr (hl e he)
  rw [← List.length_map (f := Prod.fst)]
  exact (List.subperm_of_subset h.keys hsub).length_le

end Interned

end Foundation
end Simulator
