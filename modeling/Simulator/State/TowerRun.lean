import Simulator.State.TowerRounds

/-!
# Runs of a tower manager

`Run` is the life of one tower manager: it is constructed on a map its player owns
nothing of, requests are queued, its towers lose hp, the rest of the program
spends money and draws ids, and `update` is called.

The theorem is that the reference counting of territory is exact.  Its invariant
is `Painted`, which says what the counters and flags are worth: the marks are
right, and the excess of every counter over the number of towers that cover the
cell is zero.  The one round that can spoil the excess is the upgrade, which
claims the cells that the new square has and the old one has not, and gives up
none; when the ranges do not decrease with the level there is none to give up.
Without that assumption the excess is still never negative, so a cell in range of
a tower always has a reference.
-/

namespace Simulator

open Foundation

namespace TowerEnv

open TowerManager

variable {K : Type} [Field K] [LinearOrder K] [FloorRing K]

/-! ## What a tower manager leaves alone -/

omit [Field K] [LinearOrder K] [FloorRing K] in
/-- The second environment has the player, the cap on the money, the sizes and the
terrain of the map and the flags of the other player of the first. -/
structure SameContext (e e' : TowerEnv K) : Prop where
  playerId : e'.manager.playerId = e.manager.playerId
  size : e'.map.size = e.map.size
  elementSize : e'.map.elementSize = e.map.elementSize
  owns : ∀ q, q ≠ e.manager.playerId → e'.map.owns q = e.map.owns q
  terrainType : ∀ cell, (e'.map.elements cell).terrainType = (e.map.elements cell).terrainType
  maxMoney : e'.moneyManager.maxMoney = e.moneyManager.maxMoney

omit [Field K] [LinearOrder K] [FloorRing K] in
theorem SameContext.refl (e : TowerEnv K) : e.SameContext e :=
  ⟨rfl, rfl, rfl, fun _ _ => rfl, fun _ => rfl, rfl⟩

omit [Field K] [LinearOrder K] [FloorRing K] in
theorem SameContext.trans {e e₁ e₂ : TowerEnv K} (h : e.SameContext e₁) (h' : e₁.SameContext e₂) :
    e.SameContext e₂ where
  playerId := h'.playerId.trans h.playerId
  size := h'.size.trans h.size
  elementSize := h'.elementSize.trans h.elementSize
  owns := fun q hq => (h'.owns q (h.playerId ▸ hq)).trans (h.owns q hq)
  terrainType := fun cell => (h'.terrainType cell).trans (h.terrainType cell)
  maxMoney := h'.maxMoney.trans h.maxMoney

omit [Field K] [LinearOrder K] [FloorRing K] in
theorem sameContext_setTerritory {e e' : TowerEnv K} (t : RefCover Cell)
    (hp : e'.manager.playerId = e.manager.playerId) (hm : e'.map = e.map)
    (hmoney : e'.moneyManager.maxMoney = e.moneyManager.maxMoney) :
    e.SameContext (e'.setTerritory t) where
  playerId := hp
  size := by rw [← hm]; rfl
  elementSize := by rw [← hm]; rfl
  owns := fun q hq => by
    rw [setTerritory, GameMap.owns_withOwner_of_ne _ (hp ▸ hq), hm]
  terrainType := fun cell => by
    rw [← hm]
    rfl
  maxMoney := hmoney

omit [Field K] [LinearOrder K] [FloorRing K] in
theorem sameContext_built (e : TowerEnv K) (t : Tower K) (cost : ℤ) (cells : List Cell) :
    e.SameContext (e.built t cost cells) :=
  sameContext_setTerritory _ rfl rfl rfl

omit [Field K] [LinearOrder K] [FloorRing K] in
theorem sameContext_upgraded (e : TowerEnv K) (i : ℕ) (t : Tower K) (cost : ℤ) (cells : List Cell) :
    e.SameContext (e.upgraded i t cost cells) :=
  sameContext_setTerritory _ rfl rfl rfl

omit [Field K] [LinearOrder K] [FloorRing K] in
theorem sameContext_demolished (e : TowerEnv K) (i : ℕ) (t : Tower K) (amount : ℤ) :
    e.SameContext (e.demolished i t amount) :=
  ⟨rfl, rfl, rfl, fun _ _ => rfl, fun _ => rfl, rfl⟩

omit [Field K] [LinearOrder K] [FloorRing K] in
theorem sameContext_aged (e : TowerEnv K) : e.SameContext e.aged :=
  ⟨rfl, rfl, rfl, fun _ _ => rfl, fun _ => rfl, rfl⟩

omit [Field K] [LinearOrder K] [FloorRing K] in
theorem sameContext_deleted (e : TowerEnv K) (i : ℕ) (t : Tower K) (cells : List Cell) :
    e.SameContext (e.deleted i t cells) :=
  sameContext_setTerritory _ rfl rfl rfl

/-! ## The invariant -/

/-- How far the counter of a cell is above the number of towers in range of it. -/
def excess (c : Constants K) (m : GameMap) (towers : List (Tower K)) (t : RefCover Cell)
    (cell : Cell) : ℤ :=
  RefCover.excess (Covers c m) towers t cell

theorem excess_congr {c : Constants K} {m m' : GameMap} (hs : m'.size = m.size)
    (he : m'.elementSize = m.elementSize) (towers : List (Tower K)) (t : RefCover Cell) :
    excess c m' towers t = excess c m towers t := by
  ext cell
  simp only [excess, RefCover.excess, RefCover.count, covers_congr hs he]

/-- What the counters and the flags of a tower manager are worth. -/
structure Painted (c : Constants K) (e : TowerEnv K) : Prop where
  charted : e.Charted c
  consistent : e.territory.Consistent
  excess_nonneg : ∀ cell, 0 ≤ excess c e.map e.manager.towers e.territory cell
  excess_eq_zero : c.towerRanges.Pairwise (· ≤ ·) →
    ∀ cell, excess c e.map e.manager.towers e.territory cell = 0

/-- What has to be shown of a step: the new towers are charted, the marks are right
again, and the excess has grown by an amount that is zero when the ranges do not
decrease. -/
theorem Painted.step {c : Constants K} {e e' : TowerEnv K} (h : e.Painted c)
    (hs : e'.map.size = e.map.size) (he : e'.map.elementSize = e.map.elementSize)
    (hchart : ∀ t ∈ e'.manager.towers, ∃ bounds, calculateBounds c e.map t = .ok bounds)
    (hcons : e'.territory.Consistent) {g : Cell → ℤ} (hgrowth : ∀ cell, 0 ≤ g cell)
    (hmono : c.towerRanges.Pairwise (· ≤ ·) → ∀ cell, g cell = 0)
    (hexcess : ∀ cell, excess c e.map e'.manager.towers e'.territory cell =
      excess c e.map e.manager.towers e.territory cell + g cell) : e'.Painted c := by
  constructor
  · intro t ht
    rw [calculateBounds_congr hs he]
    exact hchart t ht
  · exact hcons
  · intro cell
    rw [excess_congr hs he, hexcess]
    exact add_nonneg (h.excess_nonneg cell) (hgrowth cell)
  · intro hm cell
    rw [excess_congr hs he, hexcess, h.excess_eq_zero hm, hmono hm, add_zero]

theorem Painted.step_of_eq {c : Constants K} {e e' : TowerEnv K} (h : e.Painted c)
    (hs : e'.map.size = e.map.size) (he : e'.map.elementSize = e.map.elementSize)
    (hchart : ∀ t ∈ e'.manager.towers, ∃ bounds, calculateBounds c e.map t = .ok bounds)
    (hcons : e'.territory.Consistent)
    (hexcess : ∀ cell, excess c e.map e'.manager.towers e'.territory cell =
      excess c e.map e.manager.towers e.territory cell) : e'.Painted c :=
  h.step hs he hchart hcons (g := fun _ => 0) (fun _ => le_refl _) (fun _ _ => rfl)
    fun cell => by rw [hexcess, add_zero]

theorem Painted.congr {c : Constants K} {e e' : TowerEnv K} (h : e.Painted c)
    (htowers : e'.manager.towers = e.manager.towers) (hs : e'.map.size = e.map.size)
    (he : e'.map.elementSize = e.map.elementSize) (ht : e'.territory = e.territory) :
    e'.Painted c :=
  h.step_of_eq hs he (htowers ▸ h.charted) (ht ▸ h.consistent) fun _ => by rw [htowers, ht]

theorem Painted.refs_pos {c : Constants K} {e : TowerEnv K} (h : e.Painted c) {t : Tower K}
    (ht : t ∈ e.manager.towers) {cell : Cell} (hcell : Covers c e.map t cell) :
    0 < e.territory.refs cell :=
  RefCover.refs_pos_of_covers (Covers c e.map) (h.excess_nonneg cell) ht hcell

theorem Painted.owns_of_covers {c : Constants K} {e : TowerEnv K} (h : e.Painted c) {t : Tower K}
    (ht : t ∈ e.manager.towers) {cell : Cell} (hcell : Covers c e.map t cell) :
    e.map.owns e.manager.playerId cell = true :=
  (h.consistent cell).2.mpr (h.refs_pos ht hcell)

/-- When the ranges do not decrease with the level, no other cell does. -/
theorem Painted.owns_iff {c : Constants K} {e : TowerEnv K} (h : e.Painted c)
    (hmono : c.towerRanges.Pairwise (· ≤ ·)) (cell : Cell) :
    e.map.owns e.manager.playerId cell = true ↔
      ∃ t ∈ e.manager.towers, Covers c e.map t cell := by
  have hrefs := sub_eq_zero.mp (h.excess_eq_zero hmono cell)
  rw [← RefCover.count_pos_iff, ← hrefs]
  exact (h.consistent cell).2

/-! ## What each round does to it -/

theorem Painted.built {c : Constants K} {e : TowerEnv K} (h : e.Painted c) {t : Tower K}
    (cost : ℤ) {bounds : Bounds} (hb : calculateBounds c e.map t = .ok bounds) :
    (e.built t cost bounds.cells).Painted c := by
  have hterritory : (e.built t cost bounds.cells).territory = e.territory.claim bounds.cells :=
    territory_setTerritory _ _
  refine h.step_of_eq rfl rfl ?_ ?_ ?_
  · intro u hu
    rcases List.mem_append.mp hu with hu | hu
    · exact h.charted u hu
    · exact ⟨bounds, List.mem_singleton.mp hu ▸ hb⟩
  · rw [hterritory]
    exact h.consistent.claim bounds.nodup_cells
  · rw [hterritory]
    exact RefCover.excess_append _ e.territory bounds.nodup_cells fun cell =>
      Bounds.mem_cells.trans (covers_iff hb).symm

/-- A tower that is replaced by another claims what it gains. -/
theorem Painted.upgraded {c : Constants K} {e : TowerEnv K} (h : e.Painted c) {i : ℕ}
    {t t' : Tower K} (ht : e.manager.towers[i]? = some t) (cost : ℤ) {oldBounds newBounds : Bounds}
    (hold : calculateBounds c e.map t = .ok oldBounds)
    (hnew : calculateBounds c e.map t' = .ok newBounds)
    (hgrow : c.towerRanges.Pairwise (· ≤ ·) →
      ∀ cell, Covers c e.map t cell → Covers c e.map t' cell) :
    (e.upgraded i t' cost (newBounds.cells.filter fun cell => ¬ oldBounds.Contains cell)).Painted
      c := by
  obtain ⟨hi, rfl⟩ := List.getElem?_eq_some_iff.mp ht
  set gained := newBounds.cells.filter fun cell => ¬ oldBounds.Contains cell with hgained
  have hnodup : gained.Nodup := newBounds.nodup_cells.filter _
  have hterritory : (e.upgraded i t' cost gained).territory = e.territory.claim gained :=
    territory_setTerritory _ _
  refine h.step rfl rfl ?_ ?_ (g := fun cell =>
    if Covers c e.map e.manager.towers[i] cell ∧ ¬ Covers c e.map t' cell then 1 else 0) ?_ ?_ ?_
  · intro u hu
    rcases List.mem_or_eq_of_mem_set hu with hu | rfl
    · exact h.charted u hu
    · exact ⟨newBounds, hnew⟩
  · rw [hterritory]
    exact h.consistent.claim hnodup
  · intro cell
    split <;> omega
  · exact fun hmono cell => if_neg fun hlost => hlost.2 (hgrow hmono cell hlost.1)
  · rw [hterritory]
    exact RefCover.excess_set _ hi e.territory hnodup fun cell => by
      simp [hgained, List.mem_filter, Bounds.mem_cells, covers_iff hold, covers_iff hnew]

/-- A tower that stays where it is and keeps its level can be replaced freely. -/
theorem Painted.set {c : Constants K} {e e' : TowerEnv K} (h : e.Painted c) {i : ℕ}
    {t u : Tower K} (ht : e.manager.towers[i]? = some t) (hp : u.position = t.position)
    (hl : u.towerLevel = t.towerLevel) (htowers : e'.manager.towers = e.manager.towers.set i u)
    (hmap : e'.map = e.map) (hterritory : e'.territory = e.territory) : e'.Painted c := by
  obtain ⟨hi, rfl⟩ := List.getElem?_eq_some_iff.mp ht
  have hcovers := covers_tower_congr (c := c) (m := e.map) hp hl
  refine h.step_of_eq (by rw [hmap]) (by rw [hmap]) ?_ (hterritory ▸ h.consistent) ?_
  · intro w hw
    rw [htowers] at hw
    rcases List.mem_or_eq_of_mem_set hw with hw | rfl
    · exact h.charted w hw
    · rw [calculateBounds_tower_congr hp hl]
      exact h.charted _ (List.getElem_mem hi)
  · intro cell
    have hset := RefCover.excess_set (Covers c e.map) hi (x := u) e.territory List.nodup_nil
      (fun cell => by simp [hcovers]) cell
    rw [htowers, hterritory]
    simpa [excess, hcovers] using hset

theorem Painted.deleted {c : Constants K} {e : TowerEnv K} (h : e.Painted c)
    {xs ys : List (Tower K)}
    {t : Tower K} (htowers : e.manager.towers = xs ++ t :: ys) {bounds : Bounds}
    (hb : calculateBounds c e.map t = .ok bounds) :
    (e.deleted xs.length t bounds.cells).Painted c := by
  have hmem : ∀ cell, cell ∈ bounds.cells ↔ Covers c e.map t cell := fun cell =>
    Bounds.mem_cells.trans (covers_iff hb).symm
  have ht : t ∈ e.manager.towers := by simp [htowers]
  have herase : (e.deleted xs.length t bounds.cells).manager.towers = xs ++ ys := by
    simp [TowerEnv.deleted, setTerritory, htowers, List.eraseIdx_append_of_length_le]
  have hterritory : (e.deleted xs.length t bounds.cells).territory =
      e.territory.release bounds.cells := territory_setTerritory _ _
  refine h.step_of_eq rfl rfl ?_ ?_ ?_
  · intro u hu
    rw [herase] at hu
    refine h.charted u ?_
    rw [htowers]
    rcases List.mem_append.mp hu with hu | hu
    · exact List.mem_append_left _ hu
    · exact List.mem_append_right _ (List.mem_cons_of_mem _ hu)
  · rw [hterritory]
    exact h.consistent.release bounds.nodup_cells fun cell hcell =>
      h.refs_pos ht ((hmem cell).mp hcell)
  · rw [herase, hterritory, htowers]
    exact RefCover.excess_erase _ e.territory bounds.nodup_cells hmem

/-- An upgrade gives up no cell when the ranges do not decrease with the level. -/
theorem covers_upgrade [IsStrictOrderedRing K] {c : Constants K} {m : GameMap} {t t' : Tower K}
    {bounds : Bounds} (hup : t.upgrade c = .ok t') (hnew : calculateBounds c m t' = .ok bounds)
    (hmono : c.towerRanges.Pairwise (· ≤ ·)) {cell : Cell} (hcell : Covers c m t cell) :
    Covers c m t' cell := by
  obtain ⟨hp, -, rfl⟩ := upgrade_eq_ok.mp hup
  obtain ⟨range', hrange', hbounds⟩ := calculateBounds_eq_ok.mp hnew
  rw [covers_iff hnew, ← hbounds]
  unfold Covers at hcell
  split at hcell
  · rename_i oldBounds hold
    obtain ⟨range, hrange, rfl⟩ := calculateBounds_eq_ok.mp hold
    refine towerBounds_mono m t (r := range) ?_ hcell
    -- the two levels are neighbours in the table
    rw [vectorAt_eq_ok] at hrange hrange'
    obtain ⟨hlt, rfl⟩ := List.getElem?_eq_some_iff.mp hrange.2
    obtain ⟨hlt', rfl⟩ := List.getElem?_eq_some_iff.mp hrange'.2
    exact List.pairwise_iff_getElem.mp hmono _ _ hlt hlt' (by simp only; omega)
  · exact hcell.elim

theorem Painted.update [IsStrictOrderedRing K] {c : Constants K} {e e' : TowerEnv K}
    (h : e.Painted c) (hu : TowerEnv.update c e = .ok e') : e'.Painted c ∧ e.SameContext e' := by
  refine update_invariant (I := fun e₁ => e₁.Painted c ∧ e.SameContext e₁)
    (fun e₁ h₁ => h₁.1.charted) ?build ?upgrade ?suicide ?aged ?delete ⟨h, SameContext.refl e⟩ hu
  case build =>
    rintro e₁ offset e₂ ⟨hp, hs⟩ hround
    obtain ⟨cost, t, bounds, -, -, -, -, hb, rfl⟩ := buildNext_eq_ok.mp hround
    exact ⟨hp.built cost hb, hs.trans (sameContext_built ..)⟩
  case upgrade =>
    rintro e₁ towerId e₂ ⟨hp, hs⟩ hround
    obtain ⟨i, t, cost, oldBounds, t', newBounds, -, ht, -, -, -, -, hold, hup, hnew, rfl⟩ :=
      upgradeNext_eq_ok.mp hround
    exact ⟨hp.upgraded ht cost hold hnew fun hmono _ => covers_upgrade hup hnew hmono,
      hs.trans (sameContext_upgraded ..)⟩
  case suicide =>
    rintro e₁ towerId e₂ ⟨hp, hs⟩ hround
    obtain ⟨i, t, amount, -, ht, -, -, -, rfl⟩ := suicideNext_eq_ok.mp hround
    exact ⟨hp.set ht (u := { t with hp := 0 }) rfl rfl rfl rfl rfl,
      hs.trans (sameContext_demolished ..)⟩
  case aged =>
    rintro e₁ ⟨hp, hs⟩
    exact ⟨hp.congr rfl rfl rfl rfl, hs.trans (sameContext_aged _)⟩
  case delete =>
    rintro e₁ xs t ys bounds ⟨hp, hs⟩ htowers - hb
    exact ⟨hp.deleted htowers hb, hs.trans (sameContext_deleted ..)⟩

/-- The constructor sets the counters and flags right, on a map its player owns
nothing of. -/
theorem painted_of_construct [IsStrictOrderedRing K] {c : Constants K} {towers : List (Tower K)}
    {p : PlayerId} {money : MoneyManager} {map : GameMap} {id : ℤ} {e : TowerEnv K}
    (hfree : ∀ cell, map.owns p cell = false) (h : construct c towers p money map id = .ok e) :
    e.Painted c ∧ e.manager.towers = towers ∧ e.manager.playerId = p ∧ e.map.size = map.size ∧
      e.map.elementSize = map.elementSize ∧ ∀ q, q ≠ p → e.map.owns q = map.owns q := by
  -- the towers whose range has been marked so far are a prefix of the list
  let I : List (Tower K) → TowerEnv K → Prop := fun rest e₁ =>
    ∃ done, towers = done ++ rest ∧ { e₁ with manager.towers := done : TowerEnv K }.Painted c ∧
      e₁.manager.towers = towers ∧ e₁.manager.playerId = p ∧ e₁.map.size = map.size ∧
      e₁.map.elementSize = map.elementSize ∧ ∀ q, q ≠ p → e₁.map.owns q = map.owns q
  have hstep : ∀ t rest e₁ e₂, I (t :: rest) e₁ →
      (e₁.orThrow (calculateBounds c e₁.map t) >>= fun bounds =>
        bounds.cells.foldlM markTerritory e₁) = .ok e₂ → I rest e₂ := by
    rintro t rest e₁ e₂ ⟨done, hdone, hp, ht, hpl, hs, he, ho⟩ hround
    obtain ⟨bounds, hb, hmark⟩ := bind_eq_ok.mp hround
    rw [orThrow_eq_ok] at hb
    rw [foldlM_markTerritory e₁ fun cell hcell =>
      contains_of_calculateBounds hb (Bounds.mem_cells.mp hcell), Except.ok.injEq] at hmark
    subst hmark
    refine ⟨done ++ [t], by simp [hdone], ?_, ht, hpl, hs, he, ?_⟩
    · exact (hp.built 0 hb).congr rfl rfl rfl rfl
    · intro q hq
      rw [setTerritory, GameMap.owns_withOwner_of_ne _ (hpl ▸ hq), ho q hq]
  have hstart : I towers
      { manager := {
          towers, playerId := p, towersToBuildOffsets := [], towersToUpgrade := []
          towersToSuicide := [], towersToDelete0 := [], towersToDelete1 := []
          territoryRefs := fun _ => 0 }
        moneyManager := money, map, actorIdIncrement := id } := by
    refine ⟨[], rfl, ⟨by simp [Charted], ?_, ?_, ?_⟩, rfl, rfl, rfl, rfl, fun _ _ => rfl⟩
    · exact fun cell => ⟨le_refl _, by simp [territory, hfree]⟩
    · exact fun cell => by simp [excess, RefCover.excess, RefCover.count, territory]
    · exact fun _ cell => by simp [excess, RefCover.excess, RefCover.count, territory]
  obtain ⟨done, hdone, hp, ht, hpl, hs, he, ho⟩ := foldlM_queue_invariant hstep hstart h
  refine ⟨hp.congr ?_ rfl rfl rfl, ht, hpl, hs, he, ho⟩
  rw [ht, hdone, List.append_nil]

/-! ## Runs -/

/-- **The runs of a tower manager** that is constructed on a given map. -/
inductive Run (c : Constants K) (map : GameMap) : TowerEnv K → Prop
  /-- The constructor, on a map its player owns nothing of. -/
  | construct {towers : List (Tower K)} {p : PlayerId} {money : MoneyManager} {id : ℤ}
      {e : TowerEnv K} (hfree : ∀ cell, map.owns p cell = false)
      (h : TowerEnv.construct c towers p money map id = .ok e) : Run c map e
  /-- A build is queued. -/
  | buildTower {e : TowerEnv K} (h : Run c map e) (offset : Vector K) :
      Run c map { e with manager := e.manager.buildTower offset }
  /-- An upgrade is queued. -/
  | upgradeTower {e : TowerEnv K} (h : Run c map e) (towerId : ℤ) :
      Run c map { e with manager := e.manager.upgradeTower towerId }
  /-- A suicide is queued. -/
  | suicideTower {e : TowerEnv K} (h : Run c map e) (towerId : ℤ) :
      Run c map { e with manager := e.manager.suicideTower towerId }
  /-- A tower is damaged from outside. -/
  | damage {e : TowerEnv K} (h : Run c map e) {i : ℕ} {t : Tower K}
      (ht : e.manager.towers[i]? = some t) (damageAmount : ℤ) :
      Run c map { e with
        manager := { e.manager with towers := e.manager.towers.set i (t.damage damageAmount) } }
  /-- The rest of the program spends and earns money and creates actors. -/
  | outside {e : TowerEnv K} (h : Run c map e) (moneyManager : MoneyManager)
      (actorIdIncrement : ℤ) : Run c map { e with moneyManager, actorIdIncrement }
  /-- An update that does not throw. -/
  | update {e e' : TowerEnv K} (h : Run c map e) (hu : TowerEnv.update c e = .ok e') : Run c map e'

variable [IsStrictOrderedRing K]

theorem Run.painted {c : Constants K} {map : GameMap} {e : TowerEnv K} (h : Run c map e) :
    e.Painted c ∧ ∀ q, q ≠ e.manager.playerId → e.map.owns q = map.owns q := by
  induction h with
  | construct hfree h =>
    obtain ⟨hp, -, rfl, -, -, ho⟩ := painted_of_construct hfree h
    exact ⟨hp, ho⟩
  | buildTower _ _ ih => exact ⟨ih.1.congr rfl rfl rfl rfl, ih.2⟩
  | upgradeTower _ _ ih => exact ⟨ih.1.congr rfl rfl rfl rfl, ih.2⟩
  | suicideTower _ _ ih => exact ⟨ih.1.congr rfl rfl rfl rfl, ih.2⟩
  | @damage e _ _ t ht damageAmount ih =>
    exact ⟨ih.1.set ht (u := t.damage damageAmount) rfl rfl rfl rfl rfl, ih.2⟩
  | outside _ _ _ ih => exact ⟨ih.1.congr rfl rfl rfl rfl, ih.2⟩
  | update _ hu ih =>
    obtain ⟨hp, hs⟩ := ih.1.update hu
    exact ⟨hp, fun q hq => (hs.owns q (hs.playerId ▸ hq)).trans (ih.2 q (hs.playerId ▸ hq))⟩

/-- **Territory reference counting is exact.**  At every point of a run the counter
of a cell is the number of listed towers in range of it, the player owns the cell
exactly when that number is positive, and the other player's flags are those of
the map the manager was constructed on. -/
theorem territory_exact {c : Constants K} (hmono : c.towerRanges.Pairwise (· ≤ ·)) {map : GameMap}
    {e : TowerEnv K} (h : Run c map e) (cell : Cell) :
    e.manager.territoryRefs cell =
        (e.manager.towers.countP fun t => Covers c e.map t cell : ℕ) ∧
      (e.map.owns e.manager.playerId cell = true ↔
        0 < e.manager.towers.countP fun t => Covers c e.map t cell) ∧
      ∀ q, q ≠ e.manager.playerId → e.map.owns q cell = map.owns q cell := by
  obtain ⟨hp, ho⟩ := h.painted
  have hrefs : e.manager.territoryRefs cell =
      (e.manager.towers.countP fun t => Covers c e.map t cell : ℕ) :=
    sub_eq_zero.mp (hp.excess_eq_zero hmono cell)
  refine ⟨hrefs, (hp.consistent cell).2.trans ?_, fun q hq => by rw [ho q hq]⟩
  change 0 < e.manager.territoryRefs cell ↔ _
  rw [hrefs]
  exact Int.natCast_pos

omit [Field K] [LinearOrder K] [FloorRing K] [IsStrictOrderedRing K] in
/-- Player 1 of the small game has a tower in a corner, builds another next to it,
and upgrades the first. -/
theorem territory_exact_sample : ∃ (map : GameMap) (e : TowerEnv ℚ),
    Run sampleRules.toConstants map e ∧ e.manager.towers.map Tower.towerLevel = [2, 1] ∧
      e.manager.territoryRefs (1, 1) =
        (e.manager.towers.countP fun t => Covers sampleRules.toConstants e.map t (1, 1) : ℕ) := by
  let map : GameMap := { size := 4, elementSize := 2, elements := fun _ => ⟨.land, fun _ => false⟩ }
  let t : Tower ℚ := ⟨0, .player1, 1, 1, Vector.ofInt 1 1, true, 1⟩
  let money : MoneyManager := ⟨fun _ => 10, 100, [3, 5], 2, [1, 2], fun _ => []⟩
  let requests (e : TowerEnv ℚ) : TowerEnv ℚ :=
    { e with manager := (e.manager.buildTower (Vector.ofInt 1 1)).upgradeTower 0 }
  have hrun : ((construct sampleRules.toConstants [t] .player1 money map 1).toOption.bind
      fun e => (TowerEnv.update sampleRules.toConstants (requests e)).toOption.bind
        fun e => some (e.manager.towers.map Tower.towerLevel)) = some [2, 1] := by
    decide +kernel
  obtain ⟨e, he, hrun⟩ := exists_of_toOption_bind hrun
  obtain ⟨e', he', hlevels⟩ := exists_of_toOption_bind hrun
  have hr : Run sampleRules.toConstants map e' :=
    .update (.upgradeTower (.buildTower (.construct (fun _ => rfl) he) (Vector.ofInt 1 1)) 0) he'
  exact ⟨map, e', hr, Option.some.inj hlevels, (territory_exact (by decide) hr (1, 1)).1⟩

end TowerEnv

end Simulator
