import Simulator.Foundation.DelayLine
import Simulator.State.TowerRequests

/-!
# What an update leaves of the towers

`TowerManager::Update` appends to the list of towers, works on it by id and then erases
from it, from the back and by index.  `settledTowers` is the list before the deaths in
closed form, with the towers at their places, and the update splits it in two: the towers
that have hp are listed, the others held (`updatedExactly`).

Ids may occur more than once here.  A request works on the last tower with its id, and
the closed form says so.

## No assumption on the manager

This is about every manager there can be, not about those of a game.  Queues may name one tower
several times, a tower may be upgraded and then demolished, and two towers may have one id; an
update that returns has then worked on each tower as often as the queues say (`timesWorked`).
What is asked for is only that the update returns.  So the closed form is about places in the
list, not about ids: a queue of requests comes to an iterate of what one request does, at each
place (`foldl_workOn`).

## Two turns

Removed towers pass through `towers_to_delete`, which is a delay line of two batches.  Between two
updates anything may happen to the manager but for this register.  What an update removes is held
through the next update, and released by the one after that (`heldTwoTurns`); the lists are equal,
with their order, so that nothing is held twice and nothing is lost.
-/

namespace Simulator

open Foundation

variable {K : Type}

namespace TowerManager

/-! ## Work by id -/

/-- Work on the tower that a request for `towerId` finds. -/
def workOn (f : Tower K → Tower K) (towers : List (Tower K)) (towerId : ℤ) : List (Tower K) :=
  match towerIndex towerId towers with
  | some i => towers.modify i f
  | none => towers

theorem towerIndex_congr (towerId : ℤ) {ts us : List (Tower K)}
    (h : us.map Tower.id = ts.map Tower.id) : towerIndex towerId us = towerIndex towerId ts := by
  induction ts generalizing us with
  | nil =>
    obtain rfl := List.map_eq_nil_iff.mp (h.trans List.map_nil)
    rfl
  | cons t ts ih =>
    obtain ⟨u, us, rfl, hid, hids⟩ := List.map_eq_cons_iff.mp (h.trans List.map_cons)
    rw [towerIndex, towerIndex, ih hids, hid]

section Work

variable {f : Tower K → Tower K}

theorem map_id_workOn (hf : ∀ t, (f t).id = t.id) (towers : List (Tower K)) (towerId : ℤ) :
    (workOn f towers towerId).map Tower.id = towers.map Tower.id := by
  unfold workOn
  split
  · rename_i i hi
    refine List.ext_getElem? ?_
    intro j
    rw [List.getElem?_map, List.getElem?_map, List.getElem?_modify, Option.map_eq_map,
      Option.map_map]
    congr 1
    ext t
    by_cases hij : i = j
    · simp [hij, hf]
    · simp [hij]
  · rfl

/-- The index a request works at, from the point of view of the tower that is there. -/
theorem getElem?_workOn {towers : List (Tower K)} {j : ℕ} {t : Tower K} (ht : towers[j]? = some t)
    (towerId : ℤ) : (workOn f towers towerId)[j]? =
      some (if towerId = t.id ∧ towerIndex t.id towers = some j then f t else t) := by
  unfold workOn
  split
  · rename_i i hi
    obtain ⟨u, hu, rfl⟩ := getElem?_of_towerIndex hi
    rw [List.getElem?_modify, ht, Option.map_eq_map, Option.map_some]
    by_cases hij : i = j
    · subst hij
      obtain rfl := Option.some.inj (hu.symm.trans ht)
      simp [hi]
    · have hne : ¬ (u.id = t.id ∧ towerIndex t.id towers = some j) := by
        rintro ⟨hid, hj⟩
        rw [← hid, hi] at hj
        exact hij (Option.some.inj hj)
      simp [hij, hne]
  · rename_i hnone
    have hne : ¬ (towerId = t.id ∧ towerIndex t.id towers = some j) := by
      rintro ⟨rfl, hj⟩
      rw [hnone] at hj
      simp at hj
    rw [if_neg hne, ht]

/-- How often the requests of a queue work on the tower at a place. -/
def timesWorked (towers : List (Tower K)) (queue : List ℤ) (i : ℕ) (t : Tower K) : ℕ :=
  if towerIndex t.id towers = some i then queue.count t.id else 0

/-- **A queue of requests in closed form**: each tower is worked on once for every time its
id occurs. -/
theorem foldl_workOn (hf : ∀ t, (f t).id = t.id) (queue : List ℤ) (towers : List (Tower K)) :
    queue.foldl (workOn f) towers =
      towers.mapIdx fun i t => f^[timesWorked towers queue i t] t := by
  induction queue generalizing towers with
  | nil =>
    refine List.ext_getElem? ?_
    intro j
    rw [List.getElem?_mapIdx]
    simp [timesWorked]
  | cons towerId queue ih =>
    rw [List.foldl_cons, ih]
    have hindex : ∀ id, towerIndex id (workOn f towers towerId) = towerIndex id towers :=
      fun id => towerIndex_congr id (map_id_workOn hf towers towerId)
    refine List.ext_getElem? ?_
    intro j
    rw [List.getElem?_mapIdx, List.getElem?_mapIdx]
    cases ht : towers[j]? with
    | none =>
      have hlength := congrArg List.length (map_id_workOn hf towers towerId)
      rw [List.length_map, List.length_map] at hlength
      have hnone : (workOn f towers towerId)[j]? = none := by
        rw [List.getElem?_eq_none_iff, hlength]
        exact List.getElem?_eq_none_iff.mp ht
      rw [hnone, Option.map_none, Option.map_none]
    | some t =>
      rw [getElem?_workOn ht, Option.map_some, Option.map_some]
      simp only [timesWorked, hindex]
      by_cases hhere : towerIndex t.id towers = some j
      · by_cases hid : towerId = t.id
        · simp [hhere, hid, hf, Function.iterate_succ_apply]
        · simp [hhere, hid]
      · simp [hhere]

end Work

end TowerManager

namespace TowerEnv

open TowerManager

variable [Field K] [LinearOrder K] [FloorRing K] [IsStrictOrderedRing K]

/-! ## The four loops -/

section Loops

variable {c : Constants K} {e e' : TowerEnv K}

theorem of_builds {l : List (Vector K)} (h : l.foldlM (buildNext c) e = .ok e') :
    e.SameContext e' ∧ e'.manager = { e.manager with
        towers := e.manager.towers ++
          freshTowers c e.manager.playerId e.map.elementSize e.actorIdIncrement l
        towersToBuildOffsets := e.manager.towersToBuildOffsets.drop l.length
        territoryRefs := e'.manager.territoryRefs } ∧
      e'.actorIdIncrement = e.actorIdIncrement + l.length ∧
      ∀ offset ∈ l, ∃ hp, c.towerHps[0]? = some hp := by
  induction l generalizing e with
  | nil =>
    obtain rfl : e = e' := Except.ok.inj h
    exact ⟨.refl e, by simp [freshTowers], by simp, by simp⟩
  | cons offset l ih =>
    rw [List.foldlM_cons, bind_eq_ok] at h
    obtain ⟨e₁, hround, hloop⟩ := h
    obtain ⟨cost, t, bounds, -, -, -, ht, -, rfl⟩ := buildNext_eq_ok.mp hround
    obtain ⟨hp, hat, rfl⟩ := newTower_eq_ok.mp ht
    have hget : c.towerHps[0]? = some hp := (vectorAt_eq_ok.mp hat).2
    obtain ⟨hcontext, hmanager, hid, -⟩ := ih hloop
    refine ⟨(sameContext_built ..).trans hcontext, ?_, ?_, fun _ _ => ⟨hp, hget⟩⟩
    · rw [hmanager]
      simp [built, setTerritory, freshTowers, freshTower, GameMap.withOwner, hget]
    · rw [hid]
      simp only [built, setTerritory, List.length_cons]
      push_cast
      ring

omit [IsStrictOrderedRing K] [Field K] [LinearOrder K] [FloorRing K] in
theorem set_eq_workOn {f : Tower K → Tower K} {ts : List (Tower K)} {towerId : ℤ} {i : ℕ}
    {t : Tower K} (hi : towerIndex towerId ts = some i) (ht : ts[i]? = some t) :
    ts.set i (f t) = workOn f ts towerId := by
  rw [workOn, hi]
  refine List.ext_getElem? ?_
  intro j
  rw [List.getElem?_set, List.getElem?_modify]
  by_cases hij : i = j
  · subst hij
    obtain ⟨hlt, rfl⟩ := List.getElem?_eq_some_iff.mp ht
    simp [hlt]
  · simp [hij]

theorem of_upgrades {l : List ℤ} (h : l.foldlM (upgradeNext c) e = .ok e') :
    e.SameContext e' ∧ e'.manager = { e.manager with
        towers := l.foldl (workOn (upgradedTower c)) e.manager.towers
        towersToUpgrade := e.manager.towersToUpgrade.drop l.length
        territoryRefs := e'.manager.territoryRefs } ∧
      e'.actorIdIncrement = e.actorIdIncrement := by
  induction l generalizing e with
  | nil =>
    obtain rfl : e = e' := Except.ok.inj h
    exact ⟨.refl e, by simp, rfl⟩
  | cons towerId l ih =>
    rw [List.foldlM_cons, bind_eq_ok] at h
    obtain ⟨e₁, hround, hloop⟩ := h
    obtain ⟨i, t, cost, oldBounds, t', newBounds, hi, ht, -, -, -, -, -, hup, -, rfl⟩ :=
      upgradeNext_eq_ok.mp hround
    have hupgraded : t' = upgradedTower c t := by
      obtain ⟨hp, hat, rfl⟩ := upgrade_eq_ok.mp hup
      have hget := (vectorAt_eq_ok.mp hat).2
      simp only [upgradedTower, hget, Option.getD_some]
    obtain ⟨hcontext, hmanager, hid⟩ := ih hloop
    refine ⟨(sameContext_upgraded ..).trans hcontext, ?_, hid⟩
    rw [hmanager, List.foldl_cons, ← set_eq_workOn hi ht, hupgraded]
    simp [upgraded, setTerritory]

omit [IsStrictOrderedRing K] [Field K] [LinearOrder K] [FloorRing K] in
theorem of_suicides {l : List ℤ} (h : l.foldlM suicideNext e = .ok e') :
    e.SameContext e' ∧ e'.manager = { e.manager with
        towers := l.foldl (workOn demolishedTower) e.manager.towers
        towersToSuicide := e.manager.towersToSuicide.drop l.length } ∧
      e'.actorIdIncrement = e.actorIdIncrement := by
  induction l generalizing e with
  | nil =>
    obtain rfl : e = e' := Except.ok.inj h
    exact ⟨.refl e, by simp, rfl⟩
  | cons towerId l ih =>
    rw [List.foldlM_cons, bind_eq_ok] at h
    obtain ⟨e₁, hround, hloop⟩ := h
    obtain ⟨i, t, amount, hi, ht, -, -, -, rfl⟩ := suicideNext_eq_ok.mp hround
    obtain ⟨hcontext, hmanager, hid⟩ := ih hloop
    refine ⟨(sameContext_demolished ..).trans hcontext, ?_, hid⟩
    rw [hmanager, List.foldl_cons, ← set_eq_workOn hi ht]
    simp [demolished, demolishedTower]

theorem of_deaths (xs : List (Tower K)) {ys : List (Tower K)}
    (htowers : e.manager.towers = xs ++ ys)
    (h : (deadIndices xs).reverse.foldlM (deleteTower c) e = .ok e') :
    e.SameContext e' ∧ e'.manager = { e.manager with
        towers := (xs.filter fun t => t.hp ≠ 0) ++ ys
        towersToDelete1 := e.manager.towersToDelete1 ++ (xs.filter fun t => t.hp = 0).reverse
        territoryRefs := e'.manager.territoryRefs } ∧
      e'.actorIdIncrement = e.actorIdIncrement := by
  obtain ⟨hmanager, -, hid⟩ := manager_of_deaths xs htowers h
  refine ⟨foldlM_invariant ?_ (.refl e) h, hmanager, hid⟩
  intro e₁ e₂ i hcontext _ hround
  obtain ⟨t, bounds, -, -, rfl⟩ := exists_of_deleteTower hround
  exact hcontext.trans (sameContext_deleted ..)

end Loops

/-! ## The list before the deaths -/

section Settled

variable {c : Constants K} {e e' : TowerEnv K}

/-- The towers of before and the ones that are built. -/
def listedTowers (c : Constants K) (e : TowerEnv K) : List (Tower K) :=
  e.manager.towers ++ freshTowers c e.manager.playerId e.map.elementSize e.actorIdIncrement
    e.manager.towersToBuildOffsets

/-- A tower of a list, as the upgrades and the suicides leave it. -/
def settledTower (c : Constants K) (m : TowerManager K) (towers : List (Tower K)) (i : ℕ)
    (t : Tower K) : Tower K :=
  let upgraded := (upgradedTower c)^[timesWorked towers m.towersToUpgrade i t] t
  if towerIndex t.id towers = some i ∧ t.id ∈ m.towersToSuicide then demolishedTower upgraded
  else upgraded

/-- The towers before the deaths. -/
def settledTowers (c : Constants K) (e : TowerEnv K) : List (Tower K) :=
  (listedTowers c e).mapIdx (settledTower c e.manager (listedTowers c e))

/-- The towers that an update removes, in the order in which it does. -/
def removedTowers (c : Constants K) (e : TowerEnv K) : List (Tower K) :=
  ((settledTowers c e).filter fun t => t.hp = 0).reverse

omit [LinearOrder K] [FloorRing K] [IsStrictOrderedRing K] in
theorem getElem?_freshTowers {p : PlayerId} {elementSize id : ℤ} {l : List (Vector K)} {k : ℕ}
    {offset : Vector K} (h : l[k]? = some offset) :
    (freshTowers c p elementSize id l)[k]? = some (freshTower c p elementSize (id + k) offset) := by
  induction l generalizing k id with
  | nil => simp at h
  | cons first l ih =>
    cases k with
    | zero =>
      obtain rfl : first = offset := Option.some.inj h
      simp [freshTowers]
    | succ k =>
      rw [freshTowers, List.getElem?_cons_succ, ih h]
      congr 2
      push_cast
      ring

omit [Field K] [LinearOrder K] [FloorRing K] [IsStrictOrderedRing K] in
theorem id_iterate_upgradedTower (n : ℕ) (t : Tower K) :
    ((upgradedTower c)^[n] t).id = t.id := by
  induction n generalizing t with
  | zero => rfl
  | succ n ih => rw [Function.iterate_succ_apply, ih, upgradedTower]

omit [Field K] [LinearOrder K] [FloorRing K] [IsStrictOrderedRing K] in
theorem iterate_demolishedTower (n : ℕ) (t : Tower K) :
    demolishedTower^[n] t = if n = 0 then t else demolishedTower t := by
  induction n generalizing t with
  | zero => rfl
  | succ n ih =>
    rw [Function.iterate_succ_apply, ih, if_neg (Nat.succ_ne_zero n)]
    split <;> rfl

omit [Field K] [LinearOrder K] [FloorRing K] [IsStrictOrderedRing K] in
/-- The upgrades and the suicides, tower by tower. -/
theorem foldl_workOn_eq (c : Constants K) (m : TowerManager K) (towers : List (Tower K)) :
    m.towersToSuicide.foldl (workOn demolishedTower)
        (m.towersToUpgrade.foldl (workOn (upgradedTower c)) towers) =
      towers.mapIdx (settledTower c m towers) := by
  have hids : (m.towersToUpgrade.foldl (workOn (upgradedTower c)) towers).map Tower.id =
      towers.map Tower.id :=
    foldl_invariant (g := workOn (upgradedTower c))
      (I := fun ts => ts.map Tower.id = towers.map Tower.id)
      (fun ts h towerId _ =>
        (map_id_workOn (f := upgradedTower c) (fun _ => rfl) ts towerId).trans h) rfl
  rw [foldl_workOn (f := demolishedTower) (fun _ => rfl)]
  simp only [timesWorked, towerIndex_congr _ hids]
  rw [foldl_workOn (f := upgradedTower c) (fun _ => rfl), List.mapIdx_mapIdx]
  congr 1
  ext i t
  simp only [Function.comp_apply, id_iterate_upgradedTower, iterate_demolishedTower, settledTower]
  by_cases hhere : towerIndex t.id towers = some i
  · simp [hhere, List.count_eq_zero]
  · simp [hhere]

/-! ## One update -/

/-- What an update leaves of the towers. -/
structure UpdatedExactly (c : Constants K) (e e' : TowerEnv K) : Prop where
  /-- One new tower for each queued build, with the next ids and at full hp. -/
  built : ∀ (k : ℕ) offset, e.manager.towersToBuildOffsets[k]? = some offset →
    ∃ hp, c.towerHps[0]? = some hp ∧ (listedTowers c e)[e.manager.towers.length + k]? = some {
      id := e.actorIdIncrement + k, playerId := e.manager.playerId, hp := hp, maxHp := hp
      position :=
        ⟨.ofInt e.map.elementSize * offset.x + .ofInt (e.map.elementSize / 2),
          .ofInt e.map.elementSize * offset.y + .ofInt (e.map.elementSize / 2)⟩
      isBase := false, towerLevel := 1 }
  /-- It stands at the centre of its cell. -/
  centred : ∀ (k : ℕ) (cell : Cell), e.manager.towersToBuildOffsets[k]? =
      some (Vector.ofInt cell.1 cell.2) → ∀ t ∈ (listedTowers c e)[e.manager.towers.length + k]?,
    t.position = e.map.cellCentre cell
  length_listed : (listedTowers c e).length =
    e.manager.towers.length + e.manager.towersToBuildOffsets.length
  actorIdIncrement : e'.actorIdIncrement =
    e.actorIdIncrement + e.manager.towersToBuildOffsets.length
  towers : e'.manager.towers = (settledTowers c e).filter fun t => t.hp ≠ 0
  builds : e'.manager.towersToBuildOffsets = []
  upgrades : e'.manager.towersToUpgrade = []
  suicides : e'.manager.towersToSuicide = []
  removed : e'.manager.towersToDelete1 = removedTowers c e
  aged : e'.manager.towersToDelete0 = e.manager.towersToDelete1
  /-- Every tower is listed, held or released, and none is twice. -/
  conserved : (e'.manager.allocatedTowers ++ e.manager.towersToDelete0).Perm
    (settledTowers c e ++ e.manager.towersToDelete1 ++ e.manager.towersToDelete0)

/-- **An update keeps exactly the right towers.** -/
theorem updatedExactly (h : update c e = .ok e') : UpdatedExactly c e e' := by
  simp only [update, bind_eq_ok] at h
  obtain ⟨e₁, h₁, e₂, h₂, e₃, h₃, h₄⟩ := h
  obtain ⟨-, hm₁, hid₁, hhp⟩ := of_builds h₁
  obtain ⟨-, hm₂, hid₂⟩ := of_upgrades h₂
  obtain ⟨-, hm₃, hid₃⟩ := of_suicides h₃
  have hdeaths : (deadIndices e₃.manager.towers).reverse.foldlM (deleteTower c) e₃.aged = .ok e' :=
    h₄
  obtain ⟨-, hm₄, hid₄⟩ := of_deaths (e := e₃.aged) e₃.manager.towers
    (List.append_nil _).symm hdeaths
  have hqueue₁ : e₁.manager.towersToUpgrade = e.manager.towersToUpgrade := by rw [hm₁]
  have hqueue₂ : e₂.manager.towersToSuicide = e.manager.towersToSuicide := by rw [hm₂, hm₁]
  have hlisted : e₁.manager.towers = listedTowers c e := by rw [hm₁, listedTowers]
  have hsettled : e₃.manager.towers = settledTowers c e := by
    rw [hm₃, hqueue₂, hm₂, hqueue₁, hlisted, foldl_workOn_eq, settledTowers]
  have hmanager : e'.manager = { e.manager with
      towers := (settledTowers c e).filter fun t => t.hp ≠ 0
      towersToBuildOffsets := []
      towersToUpgrade := []
      towersToSuicide := []
      towersToDelete0 := e.manager.towersToDelete1
      towersToDelete1 := removedTowers c e
      territoryRefs := e'.manager.territoryRefs } := by
    rw [hm₄, aged, hsettled, hm₃, hm₂, hm₁]
    simp [removedTowers]
  constructor
  case built =>
    intro k offset hk
    obtain ⟨hp, hget⟩ := hhp offset (List.mem_of_getElem? hk)
    refine ⟨hp, hget, ?_⟩
    rw [listedTowers, List.getElem?_append_right (Nat.le_add_right ..), Nat.add_sub_cancel_left,
      getElem?_freshTowers hk, freshTower, hget, Option.getD_some]
  case centred =>
    intro k cell hk t ht
    rw [listedTowers, List.getElem?_append_right (Nat.le_add_right ..), Nat.add_sub_cancel_left,
      getElem?_freshTowers hk] at ht
    obtain rfl := Option.some.inj ht
    simp [freshTower, GameMap.cellCentre, Vector.ofInt]
  case length_listed => simp [listedTowers]
  case actorIdIncrement => exact hid₄.trans (hid₃.trans (hid₂.trans hid₁))
  case conserved =>
    have hsplit : ((settledTowers c e).filter (fun t => t.hp ≠ 0) ++ removedTowers c e).Perm
        (settledTowers c e) :=
      ((List.reverse_perm _).append_left _).trans
        (by simpa using List.filter_append_perm (fun t => t.hp ≠ 0) (settledTowers c e))
    rw [allocatedTowers, hmanager]
    exact (hsplit.append_right _).append_right _
  all_goals rw [hmanager]

end Settled

/-! ## One update after the other -/

section Turns

variable {c : Constants K} {N : ℕ} {e : ℕ → TowerEnv K}

omit [Field K] [LinearOrder K] [FloorRing K] [IsStrictOrderedRing K] in
/-- The towers that are held for deletion. -/
def register (e : TowerEnv K) : DelayLine (Tower K) :=
  ⟨e.manager.towersToDelete0, e.manager.towersToDelete1⟩

omit [IsStrictOrderedRing K] in
/-- An update that does not throw, and anything after it that leaves the held towers
where they are. -/
def Turn (c : Constants K) (e e' : TowerEnv K) : Prop :=
  ∃ e₁, update c e = .ok e₁ ∧ e'.register = e₁.register

omit [IsStrictOrderedRing K] in
/-- In a row of updates, what each removes is held through the next one and released by
the one after that. -/
structure HeldTwoTurns (c : Constants K) (N : ℕ) (e : ℕ → TowerEnv K) : Prop where
  held : ∀ n < N, (e (n + 1)).manager.towersToDelete1 = removedTowers c (e n)
  kept : ∀ n, n + 1 < N → (e (n + 2)).manager.towersToDelete0 = removedTowers c (e n)
  /-- What the updates have released and what is held then, in order, is what was held at
  the start and what they have removed. -/
  conserved : (List.range N).flatMap (fun n => (e n).manager.towersToDelete0) ++
      ((e N).manager.towersToDelete0 ++ (e N).manager.towersToDelete1) =
    (e 0).manager.towersToDelete0 ++ (e 0).manager.towersToDelete1 ++
      (List.range N).flatMap fun n => removedTowers c (e n)

theorem run_register (h : ∀ n < N, Turn c (e n) (e (n + 1))) :
    DelayLine.Run N (fun n => (e n).register) fun n => removedTowers c (e n) := by
  intro n hn
  obtain ⟨e₁, hupdate, hregister⟩ := h n hn
  have hexact := updatedExactly hupdate
  show (e (n + 1)).register = _
  rw [hregister, register, hexact.aged, hexact.removed]
  rfl

theorem heldTwoTurns (h : ∀ n < N, Turn c (e n) (e (n + 1))) : HeldTwoTurns c N e where
  held := fun _ hn => (run_register h).younger hn
  kept := fun _ hn => (run_register h).older hn
  conserved := (run_register h).conserved

end Turns

/-- **The right towers are kept, and the others held for two turns.** -/
theorem update_keeps_exactly (c : Constants K) :
    (∀ e e' : TowerEnv K, update c e = .ok e' → UpdatedExactly c e e') ∧
      ∀ (N : ℕ) (e : ℕ → TowerEnv K), (∀ n < N, Turn c (e n) (e (n + 1))) → HeldTwoTurns c N e :=
  ⟨fun _ _ => updatedExactly, fun _ _ => heldTwoTurns⟩

/-- A tower is built, demolished at the next update, and then nothing is asked for. -/
def sampleTurns : ℕ → TowerEnv ℚ
  | 0 => { sampleTowerEnv with manager := sampleTowerEnv.manager.buildTower (Vector.ofInt 2 2) }
  | n + 1 =>
    let e := ((update sampleRules.toConstants (sampleTurns n)).toOption).getD (sampleTurns n)
    if n = 0 then { e with manager := e.manager.suicideTower 0 } else e

theorem update_keeps_exactly_sample :
    HeldTwoTurns sampleRules.toConstants 3 sampleTurns ∧
      (removedTowers sampleRules.toConstants (sampleTurns 1)).map Tower.id = [0] ∧
      ∃ e', UpdatedExactly sampleRules.toConstants (sampleTurns 0) e' := by
  have hreturns : ∀ n < 3, ∃ e₁,
      update sampleRules.toConstants (sampleTurns n) = .ok e₁ := by
    have hreturn : ∀ n < 3,
        ((update sampleRules.toConstants (sampleTurns n)).toOption).isSome := by decide +kernel
    intro n hn
    have hsome := hreturn n hn
    cases hupdate : update sampleRules.toConstants (sampleTurns n) with
    | error e => simp [hupdate, Except.toOption] at hsome
    | ok e₁ => exact ⟨e₁, rfl⟩
  have hturns : ∀ n < 3, Turn sampleRules.toConstants (sampleTurns n) (sampleTurns (n + 1)) := by
    intro n hn
    obtain ⟨e₁, hupdate⟩ := hreturns n hn
    refine ⟨e₁, hupdate, ?_⟩
    rw [sampleTurns, hupdate]
    split <;> rfl
  obtain ⟨e', hupdate⟩ := hreturns 0 (by decide)
  exact ⟨(update_keeps_exactly _).2 3 sampleTurns hturns, by decide +kernel, e',
    (update_keeps_exactly _).1 _ _ hupdate⟩

end TowerEnv

end Simulator
