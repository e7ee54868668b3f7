import Simulator.Foundation.Double
import Mathlib.Data.Fintype.Basic

/-!
# Players, vectors and faults

The small types the rest of the simulator shares: the two players, the 2D vector
of `physics/vector.h`, and the ways a call can fail.

A call of the simulator ends in one of three ways: it returns, it throws one of
the two exceptions the code base uses, or its behaviour is undefined because it
read past the end of a vector or through a pointer to nothing.  The last two are
the values of `Fault`, so that "never throws" is stated together with "never
does anything undefined".

A vector of the standard library is a list here, and `vectorAt` is its `operator[]`.  An index
that is negative or too large is a fault and not a default, so that a model which reads a table at
a level that has no entry does not return by chance; the source reads something there, and nothing
can be said of it.

Coordinates are of type `double` in the source and of type `Double K` here: exact numbers of a
field, or the value that is no number.  The operations on vectors are componentwise, and the
comparison is the one of `double`, which is false at that value.
-/

namespace Simulator

open Foundation

/-- How a call fails to return. -/
inductive Fault where
  | outOfRange (what : String)
  | logicError (what : String)
  /-- A read past the end of a vector, or through a null or dangling pointer. -/
  | undefined
  deriving DecidableEq, Repr

/-- `xs[i]` of a vector, where an index outside the vector is undefined. -/
def vectorAt {α : Type} (xs : List α) (i : ℤ) : Except Fault α :=
  if i < 0 then .error .undefined
  else match xs[i.toNat]? with
    | some x => .ok x
    | none => .error .undefined

theorem vectorAt_eq_ok {α : Type} {xs : List α} {i : ℤ} {x : α} :
    vectorAt xs i = .ok x ↔ 0 ≤ i ∧ xs[i.toNat]? = some x := by
  unfold vectorAt
  split
  · rename_i hi
    simp only [reduceCtorEq, false_iff, not_and]
    omega
  · rename_i hi
    cases hx : xs[i.toNat]? with
    | none => simp
    | some y => simp [not_lt.mp hi]

theorem vectorAt_of_getElem? {α : Type} {xs : List α} {i : ℕ} {x : α} (h : xs[i]? = some x) :
    vectorAt xs (i : ℤ) = .ok x :=
  vectorAt_eq_ok.mpr ⟨Int.natCast_nonneg _, by simpa using h⟩

theorem vectorAt_of_lt {α : Type} {l : List α} {i : ℤ} (h₀ : 0 ≤ i) (h₁ : i < l.length) :
    ∃ x ∈ l, vectorAt l i = .ok x := by
  have hlt : i.toNat < l.length := by omega
  exact ⟨l[i.toNat], List.getElem_mem hlt,
    vectorAt_eq_ok.mpr ⟨h₀, List.getElem?_eq_getElem hlt⟩⟩

theorem vectorAt_of_outside {α : Type} {l : List α} {i : ℤ} (h : i < 0 ∨ l.length ≤ i) :
    vectorAt l i = .error .undefined := by
  unfold vectorAt
  split
  · rfl
  · have hlength : l.length ≤ i.toNat := by omega
    rw [List.getElem?_eq_none hlength]

theorem mem_of_vectorAt {α : Type} {xs : List α} {i : ℤ} {x : α} (h : vectorAt xs i = .ok x) :
    x ∈ xs :=
  List.mem_of_getElem? (vectorAt_eq_ok.mp h).2

/-! ## Players -/

/-- The two game players. -/
inductive PlayerId where
  | player1
  | player2
  deriving DecidableEq, Repr

namespace PlayerId

/-- The integer value of a player, which is the player's index in every vector. -/
def index : PlayerId → ℤ
  | player1 => 0
  | player2 => 1

/-- `(player_id + 1) % PLAYER_COUNT`. -/
def opponent : PlayerId → PlayerId
  | player1 => player2
  | player2 => player1

/-- The players in the order every loop of the source takes them. -/
def all : List PlayerId := [player1, player2]

@[simp] theorem opponent_opponent (p : PlayerId) : p.opponent.opponent = p := by cases p <;> rfl

@[simp] theorem opponent_ne (p : PlayerId) : p.opponent ≠ p := by cases p <;> decide

@[simp] theorem ne_opponent (p : PlayerId) : p ≠ p.opponent := by cases p <;> decide

theorem eq_opponent_of_ne {p q : PlayerId} (h : q ≠ p) : q = p.opponent := by
  cases p <;> cases q <;> simp_all [opponent]

theorem mem_all (p : PlayerId) : p ∈ all := by cases p <;> decide

theorem nodup_all : all.Nodup := by decide

instance : Fintype PlayerId := ⟨⟨↑all, by decide⟩, mem_all⟩

end PlayerId

/-! ## Vectors -/

/-- A 2D vector. -/
structure Vector (K : Type) where
  x : Double K
  y : Double K
  deriving DecidableEq

namespace Vector

variable {K : Type}

/-- `operator==`, which is componentwise and false at `nan`. -/
def Equal (v w : Vector K) : Prop := Double.Equal v.x w.x ∧ Double.Equal v.y w.y

instance [DecidableEq K] : DecidableRel (Equal (K := K)) := fun _ _ =>
  inferInstanceAs (Decidable (_ ∧ _))

variable [Field K]

instance : Add (Vector K) := ⟨fun v w => ⟨v.x + w.x, v.y + w.y⟩⟩
instance : Sub (Vector K) := ⟨fun v w => ⟨v.x - w.x, v.y - w.y⟩⟩

/-- The vector with the given integer coordinates. -/
def ofInt (x y : ℤ) : Vector K := ⟨Double.ofInt x, Double.ofInt y⟩

/-- `operator*` with a scalar. -/
def scale (v : Vector K) (k : Double K) : Vector K := ⟨v.x * k, v.y * k⟩

variable [LinearOrder K]

/-- `operator/` with a scalar. -/
def divide (v : Vector K) (k : Double K) : Vector K := ⟨v.x / k, v.y / k⟩

/-- The magnitude of the vector. -/
def magnitude [SquareRoot K] (v : Vector K) : Double K := (v.x * v.x + v.y * v.y).sqrt

/-- Distance between this and another vector. -/
def distance [SquareRoot K] (v w : Vector K) : Double K :=
  ((v.x - w.x) * (v.x - w.x) + (v.y - w.y) * (v.y - w.y)).sqrt

/-- Componentwise floor. -/
def floor [FloorRing K] (v : Vector K) : Vector K := ⟨v.x.floor, v.y.floor⟩

end Vector

end Simulator
