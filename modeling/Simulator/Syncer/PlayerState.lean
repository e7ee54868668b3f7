import Simulator.State.Actor
import Simulator.Foundation.Loops

/-!
# The players' copies of the state

`PlayerState` is what a player's code is given and gives back.  Its arrays have
fixed sizes, and the player can leave anything in them: commands are read from
the members below marked as writable, and the ids.

The arrays are as long as there may be towers and soldiers, and the map is as wide as the map of
the game.  Towers are in the first slots, as many as the player has, and what is in the slots
after them is left over from earlier turns.  The model keeps the arrays with their lengths, so
that a loop which runs beyond the end of one is a fault.

A player gives a command by writing to members of a slot: a destination or the id of a target for
a soldier, a flag for an upgrade or a demolition for a tower, a flag for a build for an element of
the map.  Several commands may be in one slot, and whether that is allowed is for the state syncer
to say.

The last section has copies with certain commands in them, for games that are played on given
inputs.
-/

namespace Simulator

open Foundation

namespace PlayerState

/-- `player_state::SoldierState`. -/
inductive SoldierState where
  | idle
  | move
  | attack
  | pursuit
  | dead
  deriving DecidableEq, Repr

/-- A map element as a player sees it. -/
structure MapElement where
  territory : Bool
  enemyTerritory : Bool
  validTerritory : Bool
  /-- Writable. -/
  buildTower : Bool
  deriving DecidableEq

/-- A soldier as a player sees it. -/
structure Soldier (K : Type) where
  id : ℤ
  position : Vector K
  hp : ℤ
  state : SoldierState
  isImmune : Bool
  /-- Writable. -/
  towerTarget : ℤ
  /-- Writable. -/
  soldierTarget : ℤ
  /-- Writable. -/
  destination : Vector K
  deriving DecidableEq

/-- A tower as a player sees it. -/
structure Tower (K : Type) where
  id : ℤ
  position : Vector K
  hp : ℤ
  level : ℤ
  /-- Writable. -/
  upgradeTower : Bool
  /-- Writable. -/
  suicide : Bool
  deriving DecidableEq

end PlayerState

/-- A player's copy of the state. -/
structure PlayerState {K : Type} (c : Constants K) where
  map : Fin c.mapSize → Fin c.mapSize → PlayerState.MapElement
  soldiers : Fin c.numSoldiers → PlayerState.Soldier K
  enemySoldiers : Fin c.numSoldiers → PlayerState.Soldier K
  towers : Fin c.maxNumTowers → PlayerState.Tower K
  enemyTowers : Fin c.maxNumTowers → PlayerState.Tower K
  numTowers : ℤ
  numEnemyTowers : ℤ
  money : ℤ

namespace PlayerState

variable {K : Type} [Field K]

/-- A soldier that is given no command. -/
def quietSoldier (K : Type) [Field K] : Soldier K where
  id := 0
  position := Vector.ofInt 0 0
  hp := 0
  state := .idle
  isImmune := false
  towerTarget := -1
  soldierTarget := -1
  destination := Vector.ofInt (-1) (-1)

/-- A tower that is given no command. -/
def quietTower (K : Type) [Field K] : Tower K where
  id := 0
  position := Vector.ofInt 0 0
  hp := 0
  level := 0
  upgradeTower := false
  suicide := false

/-- A copy without commands. -/
def quiet (c : Constants K) : PlayerState c where
  map _ _ := ⟨false, false, false, false⟩
  soldiers _ := quietSoldier K
  enemySoldiers _ := quietSoldier K
  towers _ := quietTower K
  enemyTowers _ := quietTower K
  numTowers := 0
  numEnemyTowers := 0
  money := 0

/-- A copy in which every soldier that has the given id is sent somewhere. -/
def moveSoldiers (c : Constants K) (id : ℤ) (destination : Vector K) : PlayerState c :=
  { quiet c with
    soldiers := fun _ => { quietSoldier K with id := id, destination := destination } }

/-- A copy in which every soldier that has the given id is sent against an enemy
soldier. -/
def attackSoldier (c : Constants K) (id enemySoldierId : ℤ) : PlayerState c :=
  { quiet c with
    soldiers := fun _ => { quietSoldier K with id := id, soldierTarget := enemySoldierId } }

/-- A copy in which every soldier that has the given id is sent against an enemy
tower. -/
def attackTower (c : Constants K) (id enemyTowerId : ℤ) : PlayerState c :=
  { quiet c with
    soldiers := fun _ => { quietSoldier K with id := id, towerTarget := enemyTowerId } }

/-- A copy in which a tower is to be built at one cell. -/
def build (c : Constants K) (offset : ℕ × ℕ) : PlayerState c :=
  { quiet c with
    map := fun i j => ⟨false, false, false, (i : ℕ) = offset.1 ∧ (j : ℕ) = offset.2⟩ }

/-- A copy in which the tower in one slot is to be upgraded or demolished. -/
def alterTower (c : Constants K) (slot : ℕ) (id : ℤ) (upgradeTower suicide : Bool) :
    PlayerState c :=
  { quiet c with
    towers := fun i => if (i : ℕ) = slot then
      { quietTower K with id := id, upgradeTower := upgradeTower, suicide := suicide }
      else quietTower K }

end PlayerState

/-- `xs[i]` of an array, where an index outside the array is undefined. -/
def arrayAt {α : Type} {n : ℕ} (xs : Fin n → α) (i : ℕ) : Except Fault α :=
  if h : i < n then .ok (xs ⟨i, h⟩) else .error .undefined

/-- `xs[i] = x` of an array. -/
def arraySet {α : Type} {n : ℕ} (xs : Fin n → α) (i : ℕ) (x : α) : Except Fault (Fin n → α) :=
  if h : i < n then .ok (Function.update xs ⟨i, h⟩ x) else .error .undefined

theorem arraySet_eq_ok {α : Type} {n : ℕ} {xs xs' : Fin n → α} {i : ℕ} {x : α} :
    arraySet xs i x = .ok xs' ↔ ∃ h : i < n, Function.update xs ⟨i, h⟩ x = xs' := by
  unfold arraySet
  split
  · rename_i h
    simp [h]
  · rename_i h
    simp [h]

/-- **A loop that fills an array** from the front. -/
theorem foldlM_arraySet {α β : Type} {n m : ℕ} {read : ℕ → Except Fault β} {make : β → α}
    {xs xs' : Fin n → α}
    (h : (List.range m).foldlM (fun xs i => do
      let x ← read i
      arraySet xs i (make x)) xs = .ok xs') :
    (∀ i : Fin n, (i : ℕ) < m → ∃ x, read i = .ok x ∧ xs' i = make x) ∧
      ∀ i : Fin n, m ≤ (i : ℕ) → xs' i = xs i := by
  induction m generalizing xs' with
  | zero =>
    obtain rfl : xs = xs' := Except.ok.inj h
    exact ⟨fun i hi => absurd hi (Nat.not_lt_zero _), fun _ _ => rfl⟩
  | succ m ih =>
    rw [List.range_succ, List.foldlM_append] at h
    obtain ⟨ys, hys, h⟩ := bind_eq_ok.mp h
    rw [List.foldlM_cons] at h
    obtain ⟨zs, hzs, h⟩ := bind_eq_ok.mp h
    obtain rfl : zs = xs' := Except.ok.inj h
    obtain ⟨x, hx, hset⟩ := bind_eq_ok.mp hzs
    obtain ⟨hm, rfl⟩ := arraySet_eq_ok.mp hset
    obtain ⟨hfilled, hrest⟩ := ih hys
    constructor
    · intro i hi
      by_cases him : (i : ℕ) = m
      · obtain rfl : i = ⟨m, hm⟩ := Fin.ext him
        exact ⟨x, hx, by simp⟩
      · obtain ⟨y, hy, hi'⟩ := hfilled i (by omega)
        refine ⟨y, hy, ?_⟩
        rw [Function.update_of_ne fun heq => him (congrArg Fin.val heq), hi']
    · intro i hi
      rw [Function.update_of_ne fun heq => ?_, hrest i (by omega)]
      have := congrArg Fin.val heq
      simp only at this
      omega

theorem arrayAt_of_lt {α : Type} {n : ℕ} (xs : Fin n → α) {i : ℕ} (h : i < n) :
    arrayAt xs i = .ok (xs ⟨i, h⟩) := dif_pos h

end Simulator
