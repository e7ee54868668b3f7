import Simulator.State.TowerManager
import Simulator.Foundation.RefCover
import Simulator.Foundation.Loops

/-!
# Territory is a reference-counted cover

The reference counters of a tower manager and the ownership flags of its player
on the map are a `RefCover` of the cells by the towers.  This file says what the
loops over a range do to it: marking every cell of a list is `RefCover.claim`, and
unmarking every cell is `RefCover.release`.

Nothing else is touched.  `setTerritory` writes a cover back into an environment,
and by its form the towers, the queues, the money, the sizes of the map and the
ownership flags of the other player are what they were.
-/

namespace Simulator

open Foundation

namespace GameMap

/-- The map with the ownership flags of one player replaced. -/
def withOwner (m : GameMap) (p : PlayerId) (owned : Cell → Bool) : GameMap :=
  { m with
    elements := fun cell =>
      { m.elements cell with
        ownership := Function.update (m.elements cell).ownership p (owned cell) } }

@[simp] theorem size_withOwner (m : GameMap) (p : PlayerId) (owned : Cell → Bool) :
    (m.withOwner p owned).size = m.size := rfl

@[simp] theorem elementSize_withOwner (m : GameMap) (p : PlayerId) (owned : Cell → Bool) :
    (m.withOwner p owned).elementSize = m.elementSize := rfl

@[simp] theorem owns_withOwner_self (m : GameMap) (p : PlayerId) (owned : Cell → Bool) :
    (m.withOwner p owned).owns p = owned := by
  ext cell
  simp [owns, withOwner]

theorem owns_withOwner_of_ne (m : GameMap) {p q : PlayerId} (h : q ≠ p) (owned : Cell → Bool) :
    (m.withOwner p owned).owns q = m.owns q := by
  ext cell
  simp [owns, withOwner, h]

@[simp] theorem withOwner_withOwner (m : GameMap) (p : PlayerId) (owned owned' : Cell → Bool) :
    (m.withOwner p owned).withOwner p owned' = m.withOwner p owned' := by
  simp [withOwner]

@[simp] theorem withOwner_owns (m : GameMap) (p : PlayerId) : m.withOwner p (m.owns p) = m := by
  simp [withOwner, owns]

theorem setOwnership_eq_withOwner (m : GameMap) (cell : Cell) (p : PlayerId) (b : Bool) :
    m.setOwnership cell p b = m.withOwner p (Function.update (m.owns p) cell b) := by
  have hcells : (m.setOwnership cell p b).elements =
      (m.withOwner p (Function.update (m.owns p) cell b)).elements := by
    funext cell'
    by_cases h : cell' = cell
    · subst h
      simp [setOwnership, withOwner]
    · simp [setOwnership, withOwner, h, owns]
  exact congrArg (GameMap.mk m.size m.elementSize) hcells

end GameMap

namespace TowerEnv

variable {K : Type} [Field K] [LinearOrder K] [FloorRing K]

/-! ## The range of a tower -/

/-- The clamped square around a tower, for the given number of cells on each
side. -/
def towerBounds (m : GameMap) (t : Tower K) (range : ℤ) : Bounds :=
  let towerOffset := (t.position.divide (.ofInt m.elementSize)).floor
  { lowerX := max (towerOffset.x - .ofInt range).toInt 0
    upperX := min (towerOffset.x + .ofInt range).toInt (m.size - 1)
    lowerY := max (towerOffset.y - .ofInt range).toInt 0
    upperY := min (towerOffset.y + .ofInt range).toInt (m.size - 1) }

theorem calculateBounds_eq_ok {c : Constants K} {m : GameMap} {t : Tower K} {b : Bounds} :
    calculateBounds c m t = .ok b ↔
      ∃ range, vectorAt c.towerRanges (t.towerLevel - 1) = .ok range ∧
        towerBounds m t range = b := by
  simp only [calculateBounds, bind_eq_ok, pure_eq_ok, Except.ok.injEq]
  rfl

theorem calculateBounds_congr {c : Constants K} {m m' : GameMap} (hs : m'.size = m.size)
    (he : m'.elementSize = m.elementSize) (t : Tower K) :
    calculateBounds c m' t = calculateBounds c m t := by
  simp only [calculateBounds, hs, he]

theorem calculateBounds_tower_congr {c : Constants K} {m : GameMap} {t u : Tower K}
    (hp : u.position = t.position) (hl : u.towerLevel = t.towerLevel) :
    calculateBounds c m u = calculateBounds c m t := by
  simp only [calculateBounds, hp, hl]

/-- The range of the tower contains the cell. -/
def Covers (c : Constants K) (m : GameMap) (t : Tower K) (cell : Cell) : Prop :=
  match calculateBounds c m t with
  | .ok bounds => bounds.Contains cell
  | .error _ => False

instance (c : Constants K) (m : GameMap) (t : Tower K) (cell : Cell) :
    Decidable (Covers c m t cell) := by
  unfold Covers
  exact match calculateBounds c m t with
    | .ok bounds => inferInstanceAs (Decidable (bounds.Contains cell))
    | .error _ => .isFalse id

theorem covers_iff {c : Constants K} {m : GameMap} {t : Tower K} {b : Bounds}
    (h : calculateBounds c m t = .ok b) {cell : Cell} : Covers c m t cell ↔ b.Contains cell := by
  rw [Covers, h]

theorem covers_congr {c : Constants K} {m m' : GameMap} (hs : m'.size = m.size)
    (he : m'.elementSize = m.elementSize) (t : Tower K) : Covers c m' t = Covers c m t := by
  ext cell
  simp only [Covers, calculateBounds_congr hs he]

theorem covers_tower_congr {c : Constants K} {m : GameMap} {t u : Tower K}
    (hp : u.position = t.position) (hl : u.towerLevel = t.towerLevel) :
    Covers c m u = Covers c m t := by
  ext cell
  simp only [Covers, calculateBounds_tower_congr hp hl]

theorem contains_of_calculateBounds {c : Constants K} {m : GameMap} {t : Tower K} {b : Bounds}
    (h : calculateBounds c m t = .ok b) {cell : Cell} (hc : b.Contains cell) : m.Contains cell := by
  obtain ⟨range, -, rfl⟩ := calculateBounds_eq_ok.mp h
  simp only [Bounds.Contains, towerBounds, GameMap.Contains] at hc ⊢
  omega

omit [LinearOrder K] [FloorRing K] in
/-- A sum or difference with an integer has a number exactly when its other side
has one. -/
theorem toInt_mono_of_floor [LinearOrder K] [FloorRing K] [IsStrictOrderedRing K] (x : Double K)
    {r r' : ℤ} (h : r ≤ r') :
    (x.floor - .ofInt r').toInt ≤ (x.floor - .ofInt r).toInt ∧
      (x.floor + .ofInt r).toInt ≤ (x.floor + .ofInt r').toInt := by
  cases x with
  | nan => exact ⟨le_refl _, le_refl _⟩
  | num x =>
    simp only [Double.floor, Double.ofInt_sub, Double.ofInt_add, Double.toInt_ofInt]
    omega

theorem towerBounds_mono [IsStrictOrderedRing K] (m : GameMap) (t : Tower K) {r r' : ℤ}
    (h : r ≤ r') {cell : Cell} (hc : (towerBounds m t r).Contains cell) :
    (towerBounds m t r').Contains cell := by
  have hx := toInt_mono_of_floor (t.position.divide (.ofInt m.elementSize)).x h
  have hy := toInt_mono_of_floor (t.position.divide (.ofInt m.elementSize)).y h
  simp only [Bounds.Contains, towerBounds, Vector.floor] at hc ⊢
  omega

/-! ## The cover -/

omit [Field K] [LinearOrder K] [FloorRing K] in
/-- The counters of the manager, and the ownership flags of its player. -/
def territory (e : TowerEnv K) : RefCover Cell where
  refs := e.manager.territoryRefs
  marked := e.map.owns e.manager.playerId

omit [Field K] [LinearOrder K] [FloorRing K] in
/-- Write counters and flags back. -/
def setTerritory (e : TowerEnv K) (t : RefCover Cell) : TowerEnv K :=
  { e with
    manager.territoryRefs := t.refs
    map := e.map.withOwner e.manager.playerId t.marked }

omit [Field K] [LinearOrder K] [FloorRing K] in
@[simp] theorem territory_setTerritory (e : TowerEnv K) (t : RefCover Cell) :
    (e.setTerritory t).territory = t := by
  simp [territory, setTerritory]

omit [Field K] [LinearOrder K] [FloorRing K] in
@[simp] theorem setTerritory_territory (e : TowerEnv K) : e.setTerritory e.territory = e := by
  simp [territory, setTerritory]

omit [Field K] [LinearOrder K] [FloorRing K] in
@[simp] theorem setTerritory_setTerritory (e : TowerEnv K) (t u : RefCover Cell) :
    (e.setTerritory t).setTerritory u = e.setTerritory u := by
  simp [setTerritory]

variable [IsStrictOrderedRing K]

theorem setOwnership_eq_ok (e : TowerEnv K) {cell : Cell} (h : e.map.Contains cell) (b : Bool) :
    e.setOwnership cell b = .ok (e.setTerritory
      ⟨e.territory.refs, Function.update e.territory.marked cell b⟩) := by
  have hcell : e.map.Contains (cell.1, cell.2) := h
  simp only [setOwnership, GameMap.getElementByOffset_ofInt, if_pos hcell, orThrow_ok, ok_bind,
    pure_eq_ok, GameMap.setOwnership_eq_withOwner, setTerritory, territory]

omit [Field K] [LinearOrder K] [FloorRing K] [IsStrictOrderedRing K] in
theorem addRefs_eq_ok (e : TowerEnv K) {cell : Cell} (h : e.map.Contains cell) (n : ℤ) :
    e.addRefs cell n = .ok (e.setTerritory
      ⟨Function.update e.territory.refs cell (e.territory.refs cell + n), e.territory.marked⟩) := by
  simp only [addRefs, if_pos h, setTerritory, territory, GameMap.withOwner_owns]

theorem markTerritory_eq_ok (e : TowerEnv K) {cell : Cell} (h : e.map.Contains cell) :
    e.markTerritory cell = .ok (e.setTerritory (e.territory.claimPoint cell)) := by
  have hset := setOwnership_eq_ok (e.setTerritory
    ⟨Function.update e.territory.refs cell (e.territory.refs cell + 1), e.territory.marked⟩) h true
  rw [markTerritory, addRefs_eq_ok e h, ok_bind, hset]
  simp [RefCover.claimPoint]

theorem unmarkTerritory_eq_ok (e : TowerEnv K) {cell : Cell} (h : e.map.Contains cell) :
    e.unmarkTerritory cell = .ok (e.setTerritory (e.territory.releasePoint cell)) := by
  rw [unmarkTerritory, addRefs_eq_ok e h, ok_bind, ← sub_eq_add_neg]
  have hrefs : (e.setTerritory
      ⟨Function.update e.territory.refs cell (e.territory.refs cell - 1), e.territory.marked⟩
      ).manager.territoryRefs cell = e.territory.refs cell - 1 := by
    simp [setTerritory]
  rw [hrefs]
  by_cases h0 : e.territory.refs cell - 1 = 0
  · rw [if_pos h0, setOwnership_eq_ok (e.setTerritory _) h]
    simp only [RefCover.releasePoint, if_pos h0, territory_setTerritory, setTerritory_setTerritory]
  · rw [if_neg h0]
    simp only [RefCover.releasePoint, if_neg h0, Function.update_eq_self, pure_eq_ok]

omit [Field K] [LinearOrder K] [FloorRing K] [IsStrictOrderedRing K] in
/-- A loop over cells of the map, each round of which rewrites the cover. -/
theorem foldlM_territory {f : TowerEnv K → Cell → TowerM K (TowerEnv K)}
    {g : RefCover Cell → Cell → RefCover Cell}
    (hf : ∀ (e : TowerEnv K) cell, e.map.Contains cell →
      f e cell = .ok (e.setTerritory (g e.territory cell)))
    {cells : List Cell} (e : TowerEnv K) (h : ∀ cell ∈ cells, e.map.Contains cell) :
    cells.foldlM f e = .ok (e.setTerritory (cells.foldl g e.territory)) := by
  induction cells generalizing e with
  | nil => simp
  | cons cell cells ih =>
    rw [List.foldlM_cons, hf e cell (h cell (List.mem_cons_self ..)), ok_bind,
      ih (e.setTerritory (g e.territory cell)) fun cell' h' => h cell' (List.mem_cons_of_mem _ h')]
    simp

/-- **Marking a list of cells** claims it. -/
theorem foldlM_markTerritory (e : TowerEnv K) {cells : List Cell}
    (h : ∀ cell ∈ cells, e.map.Contains cell) :
    cells.foldlM markTerritory e = .ok (e.setTerritory (e.territory.claim cells)) :=
  foldlM_territory (fun e _ => markTerritory_eq_ok e) e h

/-- **Unmarking a list of cells** releases it. -/
theorem foldlM_unmarkTerritory (e : TowerEnv K) {cells : List Cell}
    (h : ∀ cell ∈ cells, e.map.Contains cell) :
    cells.foldlM unmarkTerritory e = .ok (e.setTerritory (e.territory.release cells)) :=
  foldlM_territory (fun e _ => unmarkTerritory_eq_ok e) e h

end TowerEnv

end Simulator
