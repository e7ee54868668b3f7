import Simulator.Syncer.Acceptance

/-!
# The commands of a turn, as lists of verdicts

`firstVerdicts` and `secondVerdicts` are the verdicts on a player's commands in the
two loops of `ExecutePlayerCommands`.  They are functions of the state before the
commands and of what the players left, and do not mention the order in which the
players are taken: the ledger of a player is touched by its own commands only,
except for the list of demolished towers, of which a verdict asks only what is on
it, and which is complete before anybody asks.

`executeInOrder_eq` says that `ExecutePlayerCommands` carries out these four lists,
in the order the loops go through them.
-/

namespace Simulator

open Foundation

variable {K : Type}

theorem filterMap_cons_toList {α β : Type} (f : α → Option β) (a : α) (l : List α) :
    (a :: l).filterMap f = (f a).toList ++ l.filterMap f := by
  cases h : f a <;> simp [h]

namespace Verdict

/-- The tower an accepted command upgrades. -/
def upgradeId (v : Verdict K) : Option ℤ :=
  match v.action with
  | some (.upgrade towerId _) => some towerId
  | _ => none

/-- The tower an accepted command demolishes. -/
def suicideId (v : Verdict K) : Option ℤ :=
  match v.action with
  | some (.suicide towerId) => some towerId
  | _ => none

/-- The offset an accepted command builds at. -/
def buildOffset (v : Verdict K) : Option (Vector K) :=
  match v.action with
  | some (.build offset _) => some offset
  | _ => none

end Verdict

namespace Ledger

/-- The two ledgers have the same money, towers and demolished towers. -/
structure Alike (l l' : Ledger) : Prop where
  money : l.money = l'.money
  numTowers : l.numTowers = l'.numTowers
  razedTowers : ∀ id, id ∈ l.razedTowers ↔ id ∈ l'.razedTowers

theorem Alike.after {l l' : Ledger} (h : l.Alike l') (v : Verdict K) :
    (l.after v).Alike (l'.after v) := by
  unfold Ledger.after
  split
  · exact ⟨by simp [h.money], h.numTowers, h.razedTowers⟩
  · exact ⟨h.money, h.numTowers, fun id => by simp [h.razedTowers]⟩
  · exact ⟨by simp [h.money], by simp [h.numTowers], h.razedTowers⟩
  all_goals exact h

theorem razedTowers_foldl (vs : List (Verdict K)) (l : Ledger) :
    (vs.foldl after l).razedTowers = l.razedTowers ++ vs.filterMap Verdict.suicideId := by
  induction vs generalizing l with
  | nil => simp
  | cons v vs ih =>
    have hv : (l.after v).razedTowers = l.razedTowers ++ v.suicideId.toList := by
      unfold after Verdict.suicideId
      split <;> simp_all
    rw [List.foldl_cons, ih, hv, filterMap_cons_toList, List.append_assoc]

theorem money_foldl_congr (vs : List (Verdict K)) {l l' : Ledger} (h : l.money = l'.money) :
    (vs.foldl after l).money = (vs.foldl after l').money := by
  induction vs generalizing l l' with
  | nil => exact h
  | cons v vs ih =>
    refine ih ?_
    unfold after
    split <;> simp [h]

end Ledger

namespace State

/-- Carry out verdicts on commands of either player. -/
def carryOutAll (st : State K) (vs : List (PlayerId × Verdict K)) : State K :=
  vs.foldl (fun st x => st.carryOut x.1 x.2.action) st

theorem carryOutAll_append (st : State K) (vs ws : List (PlayerId × Verdict K)) :
    st.carryOutAll (vs ++ ws) = (st.carryOutAll vs).carryOutAll ws :=
  List.foldl_append

theorem sameButOrders_carryOutAll (st : State K) (vs : List (PlayerId × Verdict K)) :
    st.SameButOrders (st.carryOutAll vs) :=
  foldl_invariant (I := fun st' : State K => st.SameButOrders st')
    (fun _ h _ _ => h.trans (sameButOrders_carryOut ..)) (.refl st)

/-- **What carrying out verdicts keeps**: what each of them keeps of a state that differs
from the first in orders and requests only. -/
theorem carryOutAll_invariant (st : State K) {I : State K → Prop}
    {vs : List (PlayerId × Verdict K)} (hI : I st)
    (hstep : ∀ st', st.SameButOrders st' → I st' → ∀ x ∈ vs, I (st'.carryOut x.1 x.2.action)) :
    I (st.carryOutAll vs) :=
  (foldl_invariant (I := fun st' : State K => st.SameButOrders st' ∧ I st')
    (fun st' h x hx => ⟨h.1.trans (sameButOrders_carryOut ..), hstep st' h.1 h.2 x hx⟩)
    ⟨.refl st, hI⟩).2

theorem carryOut_other (st : State K) {p q : PlayerId} (h : q ≠ p) (action : Option (Action K)) :
    (st.carryOut p action).soldiers q = st.soldiers q ∧
      (st.carryOut p action).towerManagers q = st.towerManagers q := by
  rcases action with - | action
  · exact ⟨rfl, rfl⟩
  · cases action <;>
      simp [carryOut, upgradeTower, suicideTower, buildTower, setTowerManager, modifySoldier, h]

theorem towerManagers_carryOut (st : State K) (p : PlayerId) (v : Verdict K) :
    (st.carryOut p v.action).towerManagers p = { st.towerManagers p with
      towersToBuildOffsets := (st.towerManagers p).towersToBuildOffsets ++ v.buildOffset.toList
      towersToUpgrade := (st.towerManagers p).towersToUpgrade ++ v.upgradeId.toList
      towersToSuicide := (st.towerManagers p).towersToSuicide ++ v.suicideId.toList } := by
  obtain ⟨errors, action⟩ := v
  rcases action with - | action
  · simp [carryOut, Verdict.buildOffset, Verdict.upgradeId, Verdict.suicideId]
  · cases action <;>
      simp [carryOut, upgradeTower, suicideTower, buildTower, setTowerManager, modifySoldier,
        Verdict.buildOffset, Verdict.upgradeId, Verdict.suicideId, TowerManager.upgradeTower,
        TowerManager.suicideTower, TowerManager.buildTower]

/-- The verdicts on the commands of one player, out of a list. -/
def verdictsOf (p : PlayerId) (vs : List (PlayerId × Verdict K)) : List (Verdict K) :=
  (vs.filter fun x => x.1 = p).map Prod.snd

/-- **The requests of a player** after carrying out verdicts. -/
theorem towerManagers_carryOutAll (st : State K) (p : PlayerId)
    (vs : List (PlayerId × Verdict K)) :
    (st.carryOutAll vs).towerManagers p = { st.towerManagers p with
      towersToBuildOffsets := (st.towerManagers p).towersToBuildOffsets ++
        (verdictsOf p vs).filterMap Verdict.buildOffset
      towersToUpgrade := (st.towerManagers p).towersToUpgrade ++
        (verdictsOf p vs).filterMap Verdict.upgradeId
      towersToSuicide := (st.towerManagers p).towersToSuicide ++
        (verdictsOf p vs).filterMap Verdict.suicideId } := by
  induction vs generalizing st with
  | nil => simp [carryOutAll, verdictsOf]
  | cons x vs ih =>
    obtain ⟨q, v⟩ := x
    change ((st.carryOut q v.action).carryOutAll vs).towerManagers p = _
    rw [ih]
    by_cases hq : q = p
    · subst hq
      rw [towerManagers_carryOut]
      simp only [verdictsOf, List.filter_cons, decide_true, if_true, List.map_cons,
        filterMap_cons_toList, List.append_assoc]
    · rw [(carryOut_other st (Ne.symm hq) v.action).2]
      simp [verdictsOf, hq]

/-- What an action does is done to the player's own soldiers and requests, and
depends on nothing else. -/
theorem carryOut_local (p : PlayerId) (action : Option (Action K)) :
    ∃ (f : List (Soldier K) → List (Soldier K)) (g : TowerManager K → TowerManager K),
      ∀ st : State K, st.carryOut p action = { st with
        soldiers := Function.update st.soldiers p (f (st.soldiers p))
        towerManagers := Function.update st.towerManagers p (g (st.towerManagers p)) } := by
  rcases action with - | action
  · exact ⟨fun l => l, fun m => m, fun st => by simp [carryOut]⟩
  · cases action with
    | upgrade towerId cost =>
      exact ⟨fun l => l, fun m => m.upgradeTower towerId, fun st => by
        simp [carryOut, upgradeTower, setTowerManager]⟩
    | suicide towerId =>
      exact ⟨fun l => l, fun m => m.suicideTower towerId, fun st => by
        simp [carryOut, suicideTower, setTowerManager]⟩
    | move i position =>
      exact ⟨fun l => l.modify i (Soldier.move · position), fun m => m, fun st => by
        simp [carryOut, modifySoldier]⟩
    | attack i target =>
      exact ⟨fun l => l.modify i (Soldier.attack · target), fun m => m, fun st => by
        simp [carryOut, modifySoldier]⟩
    | build offset cost =>
      exact ⟨fun l => l, fun m => m.buildTower offset, fun st => by
        simp [carryOut, buildTower, setTowerManager]⟩

theorem carryOut_comm (st : State K) {p q : PlayerId} (h : p ≠ q) (a b : Option (Action K)) :
    (st.carryOut p a).carryOut q b = (st.carryOut q b).carryOut p a := by
  obtain ⟨f, g, hp⟩ := carryOut_local p a
  obtain ⟨f', g', hq⟩ := carryOut_local q b
  simp only [hp, hq, Function.update_of_ne h, Function.update_of_ne h.symm]
  rw [Function.update_comm h, Function.update_comm h]

theorem carryOutAll_eq_append (p : PlayerId) (vs : List (PlayerId × Verdict K)) (st : State K) :
    st.carryOutAll vs = (st.carryOutAll ((verdictsOf p vs).map fun v => (p, v))).carryOutAll
      ((verdictsOf p.opponent vs).map fun v => (p.opponent, v)) := by
  induction vs generalizing st with
  | nil => rfl
  | cons x vs ih =>
    obtain ⟨q, v⟩ := x
    change (st.carryOut q v.action).carryOutAll vs = _
    rw [ih]
    by_cases hq : q = p
    · subst hq
      simp [verdictsOf, carryOutAll, PlayerId.ne_opponent]
    · obtain rfl := PlayerId.eq_opponent_of_ne hq
      have hcomm := foldl_comm_step (I := fun l _ => ∀ x ∈ l, x.1 = p)
        (k := fun st : State K => st.carryOut p.opponent v.action)
        (g := fun (st : State K) (x : PlayerId × Verdict K) => st.carryOut x.1 x.2.action)
        (fun _ _ _ h x hx => h x (List.mem_cons_of_mem _ hx))
        (fun x _ st' h => by
          rw [h x (List.mem_cons_self ..)]
          exact carryOut_comm st' (Ne.symm hq) x.2.action v.action)
        (l := (verdictsOf p vs).map fun v => (p, v)) (s := st) (by simp)
      simp only [verdictsOf, List.filter_cons, hq, decide_false, decide_true, if_true,
        List.map_cons] at hcomm ⊢
      rw [carryOutAll, carryOutAll, ← hcomm]
      rfl

/-- **Only the order of each player's own commands matters.** -/
theorem carryOutAll_congr {vs ws : List (PlayerId × Verdict K)}
    (h : ∀ p, verdictsOf p vs = verdictsOf p ws) (st : State K) :
    st.carryOutAll vs = st.carryOutAll ws := by
  rw [carryOutAll_eq_append .player1 vs, carryOutAll_eq_append .player1 ws, h, h]

end State

namespace CommandPhase

/-- Carrying out the verdicts of one player, component by component. -/
theorem foldl_carryOut (p : PlayerId) (vs : List (Verdict K)) (ph : CommandPhase K) :
    (vs.foldl (carryOut p) ph).state = ph.state.carryOutAll (vs.map fun v => (p, v)) ∧
      (vs.foldl (carryOut p) ph).errors =
        ph.errors ++ vs.flatMap fun v => v.errors.map fun e => ⟨p, e.1, e.2⟩ := by
  induction vs generalizing ph with
  | nil => simp [State.carryOutAll]
  | cons v vs ih =>
    obtain ⟨hstate, herrors⟩ := ih (ph.carryOut p v)
    constructor
    · rw [List.foldl_cons, hstate]
      rfl
    · rw [List.foldl_cons, herrors]
      simp [carryOut]

theorem stateMoney_foldl (p : PlayerId) (vs : List (Verdict K)) (ph : CommandPhase K)
    {q : PlayerId} (hq : q ≠ p) : (vs.foldl (carryOut p) ph).stateMoney q = ph.stateMoney q :=
  foldl_invariant (I := fun ph' : CommandPhase K => ph'.stateMoney q = ph.stateMoney q)
    (fun ph' h v _ => by simpa [carryOut, hq] using h) rfl

end CommandPhase

namespace StateSyncer

/-! ## Verdicts depend on little of the ledger -/

/-- Verdicts that agree from one ledger to another, on commands that keep the two
ledgers alike, agree throughout. -/
theorem judge_congr {α : Type} {f : Ledger → α → Verdict K} {R : Ledger → Ledger → Prop}
    (as : List α) (hf : ∀ l l', R l l' → ∀ a ∈ as, f l a = f l' a)
    (hR : ∀ l l', R l l' → ∀ a ∈ as, R (l.after (f l a)) (l'.after (f l a))) {l l' : Ledger}
    (h : R l l') : judge f l as = judge f l' as := by
  induction as generalizing l l' with
  | nil => rfl
  | cons a as ih =>
    have ha := List.mem_cons_self (a := a) (l := as)
    rw [judge, judge, ← hf l l' h a ha,
      ih (fun l l' h b hb => hf l l' h b (List.mem_cons_of_mem _ hb))
        (fun l l' h b hb => hR l l' h b (List.mem_cons_of_mem _ hb)) (hR l l' h a ha)]

theorem towerVerdicts_congr {c : Constants K} (st : State K) (p : PlayerId) (ps : PlayerState c)
    {l l' : Ledger} (h : l.money = l'.money) :
    towerVerdicts st p ps l = towerVerdicts st p ps l' := by
  refine judge_congr (R := fun l l' => l.money = l'.money) _ ?_ ?_ h
  · intro l l' h i _
    unfold towerSlotVerdict towerVerdict upgradeVerdict
    simp only [h]
  · intro l l' h i _
    have hsame : towerSlotVerdict st p ps l i = towerSlotVerdict st p ps l' i := by
      unfold towerSlotVerdict towerVerdict upgradeVerdict
      simp only [h]
    rw [hsame]
    unfold Ledger.after
    split <;> simp [h]

variable [Field K] [LinearOrder K] [FloorRing K]

/-- The verdicts of the second loop depend on the money, on the number of towers,
and on which towers are being demolished. -/
theorem otherVerdicts_congr {c : Constants K} (st : State K) (p : PlayerId) (ps : PlayerState c)
    {l l' : Ledger} (h : l.Alike l') : otherVerdicts st p ps l = otherVerdicts st p ps l' := by
  have hsoldier : ∀ l l' : Ledger, l.Alike l' → ∀ i,
      soldierSlotVerdict st p ps l i = soldierSlotVerdict st p ps l' i := fun l l' h i => by
    unfold soldierSlotVerdict soldierVerdict attackTowerVerdict
    simp only [h.razedTowers]
  have helement : ∀ l l' : Ledger, l.Alike l' → ∀ offset,
      elementVerdict st p ps l offset = elementVerdict st p ps l' offset := fun l l' h offset => by
    unfold elementVerdict buildVerdict
    simp only [h.money, h.numTowers]
  have hjudge := judge_congr (R := Ledger.Alike) (List.range (st.soldiers p).length)
    (fun l l' h i _ => hsoldier l l' h i)
    (fun l l' h i _ => hsoldier l l' h i ▸ h.after _) h
  have hfinal : ∀ (vs : List (Verdict K)) {l l' : Ledger}, l.Alike l' →
      (vs.foldl Ledger.after l).Alike (vs.foldl Ledger.after l') := by
    intro vs
    induction vs with
    | nil => exact fun h => h
    | cons v vs ih => exact fun h => ih (h.after v)
  unfold otherVerdicts
  rw [hjudge]
  exact congrArg _ (judge_congr (R := Ledger.Alike) _ (fun l l' h o _ => helement l l' h o)
    (fun l l' h o _ => helement l l' h o ▸ h.after _) (hfinal _ h))

/-! ## The four lists -/

section Lists

variable {c : Constants K} (st : State K) (playerStates : PlayerId → PlayerState c)
  (skipPlayerCommandsFlags : PlayerId → Bool)

omit [Field K] [LinearOrder K] [FloorRing K] in
/-- The ledger of a player before its first command. -/
def firstLedger (p : PlayerId) : Ledger where
  money := st.moneyManager.playerMoney p
  numTowers := 0
  razedTowers := []

omit [Field K] [LinearOrder K] [FloorRing K] in
/-- The verdicts on the tower commands of a player. -/
def firstVerdicts (p : PlayerId) : List (Verdict K) :=
  if skipPlayerCommandsFlags p then []
  else towerVerdicts st p (playerStates p) (firstLedger st p)

omit [Field K] [LinearOrder K] [FloorRing K] in
/-- The towers of a player that are being demolished. -/
def razed (p : PlayerId) : List ℤ :=
  (firstVerdicts st playerStates skipPlayerCommandsFlags p).filterMap Verdict.suicideId

omit [Field K] [LinearOrder K] [FloorRing K] in
/-- The ledger of a player before its soldier and build commands. -/
def secondLedger (p : PlayerId) : Ledger where
  money := ((firstVerdicts st playerStates skipPlayerCommandsFlags p).foldl Ledger.after
    (firstLedger st p)).money
  numTowers := (st.towers p).length
  razedTowers := razed st playerStates skipPlayerCommandsFlags .player1 ++
    razed st playerStates skipPlayerCommandsFlags .player2

/-- The verdicts on the soldier and build commands of a player. -/
def secondVerdicts (p : PlayerId) : List (Verdict K) :=
  if skipPlayerCommandsFlags p then []
  else otherVerdicts st p (playerStates p)
    (secondLedger st playerStates skipPlayerCommandsFlags p)

/-- The verdicts on all the commands of a player. -/
def playerVerdicts (p : PlayerId) : List (Verdict K) :=
  firstVerdicts st playerStates skipPlayerCommandsFlags p ++
    secondVerdicts st playerStates skipPlayerCommandsFlags p

/-- All the verdicts, in the order the commands are executed when player `p` comes
first. -/
def allVerdicts (p : PlayerId) : List (PlayerId × Verdict K) :=
  let first q := (firstVerdicts st playerStates skipPlayerCommandsFlags q).map fun v => (q, v)
  let second q := (secondVerdicts st playerStates skipPlayerCommandsFlags q).map fun v => (q, v)
  first p ++ first p.opponent ++ (second p ++ second p.opponent)

end Lists

/-- The errors that a list of verdicts logs. -/
def loggedErrors (vs : List (PlayerId × Verdict K)) : List LoggedError :=
  vs.flatMap fun x => x.2.errors.map fun e => ⟨x.1, e.1, e.2⟩

omit [Field K] [LinearOrder K] [FloorRing K] in
/-- The errors a player is told about are those of its own verdicts. -/
theorem filter_loggedErrors (p : PlayerId) (vs : List (PlayerId × Verdict K)) :
    (loggedErrors vs).filter (fun e => e.playerId = p) =
      (State.verdictsOf p vs).flatMap fun v => v.errors.map fun e => ⟨p, e.1, e.2⟩ := by
  induction vs with
  | nil => rfl
  | cons x vs ih =>
    obtain ⟨q, v⟩ := x
    rw [loggedErrors, List.flatMap_cons, List.filter_append, ← loggedErrors, ih]
    by_cases hq : q = p
    · subst hq
      have hall : (v.errors.map fun e => (⟨q, e.1, e.2⟩ : LoggedError)).filter
          (fun e => e.playerId = q) = v.errors.map fun e => ⟨q, e.1, e.2⟩ := by
        simp [List.filter_map, Function.comp_def]
      simp [State.verdictsOf, hall]
    · have hnone : (v.errors.map fun e => (⟨q, e.1, e.2⟩ : LoggedError)).filter
          (fun e => e.playerId = p) = [] := by
        simp [List.filter_map, Function.comp_def, hq]
      simp [State.verdictsOf, hnone, hq]

/-- The verdicts on the commands of a player do not depend on who comes first. -/
theorem verdictsOf_allVerdicts {c : Constants K} (st : State K)
    (ps : PlayerId → PlayerState c) (skip : PlayerId → Bool) (p q : PlayerId) :
    State.verdictsOf q (allVerdicts st ps skip p) = playerVerdicts st ps skip q := by
  have hself : ∀ (q : PlayerId) (vs : List (Verdict K)),
      State.verdictsOf q (vs.map fun v => (q, v)) = vs := by
    intro q vs
    simp [State.verdictsOf, List.filter_map, Function.comp_def]
  have hother : ∀ {q q' : PlayerId} (vs : List (Verdict K)), q' ≠ q →
      State.verdictsOf q (vs.map fun v => (q', v)) = [] := by
    intro q q' vs hne
    simp [State.verdictsOf, List.filter_map, Function.comp_def, hne]
  have happend : ∀ vs ws : List (PlayerId × Verdict K),
      State.verdictsOf q (vs ++ ws) = State.verdictsOf q vs ++ State.verdictsOf q ws := by
    intro vs ws
    simp [State.verdictsOf]
  simp only [allVerdicts, happend, playerVerdicts]
  by_cases hq : q = p
  · subst hq
    simp [hself, hother _ (PlayerId.opponent_ne q)]
  · obtain rfl := PlayerId.eq_opponent_of_ne hq
    simp [hself, hother _ (PlayerId.ne_opponent p)]

theorem mem_playerVerdicts {c : Constants K} {st : State K} {ps : PlayerId → PlayerState c}
    {skip : PlayerId → Bool} {p : PlayerId} {x : PlayerId × Verdict K}
    (hx : x ∈ allVerdicts st ps skip p) : x.2 ∈ playerVerdicts st ps skip x.1 := by
  rw [← verdictsOf_allVerdicts st ps skip p x.1]
  exact List.mem_map.mpr ⟨x, List.mem_filter.mpr ⟨hx, by simp⟩, rfl⟩

omit [Field K] [LinearOrder K] [FloorRing K] in
/-- A command of the first loop is in a tower slot of a player that is not skipped. -/
theorem exists_of_mem_firstVerdicts {c : Constants K} {st : State K} {ps : PlayerId → PlayerState c}
    {skip : PlayerId → Bool} {p : PlayerId} {v : Verdict K} (hv : v ∈ firstVerdicts st ps skip p) :
    skip p = false ∧ ∃ l i, towerSlotVerdict st p (ps p) l i = v := by
  unfold firstVerdicts at hv
  split at hv
  · cases hv
  · rename_i hskip
    obtain ⟨l, i, -, hi⟩ := exists_of_mem_judge hv
    exact ⟨by simpa using hskip, l, i, hi⟩

/-- A command of the second loop is in a soldier slot or a map element of a player that
is not skipped. -/
theorem exists_of_mem_secondVerdicts {c : Constants K} {st : State K}
    {ps : PlayerId → PlayerState c} {skip : PlayerId → Bool} {p : PlayerId} {v : Verdict K}
    (hv : v ∈ secondVerdicts st ps skip p) : skip p = false ∧ ∃ l,
      (∃ i, soldierSlotVerdict st p (ps p) l i = v) ∨ ∃ o, elementVerdict st p (ps p) l o = v := by
  unfold secondVerdicts at hv
  split at hv
  · cases hv
  · rename_i hskip
    exact ⟨by simpa using hskip, exists_of_mem_otherVerdicts hv⟩

theorem suicideId_otherVerdicts {c : Constants K} {st : State K} (hst : st.Sound c) (p : PlayerId)
    (ps : PlayerState c) (l : Ledger) :
    (otherVerdicts st p ps l).filterMap Verdict.suicideId = [] := by
  refine List.filterMap_eq_nil_iff.mpr ?_
  intro v hv
  unfold Verdict.suicideId
  obtain ⟨l', ⟨i, rfl⟩ | ⟨o, rfl⟩⟩ := exists_of_mem_otherVerdicts hv
  · obtain ha | ⟨_, ha⟩ | ⟨_, ha⟩ := soldierSlotVerdict_orders hst p ps l' i <;> simp only [ha]
  · cases ha : (elementVerdict st p ps l' o).action with
    | none => rfl
    | some a =>
      obtain ⟨-, -, -, rfl⟩ := elementVerdict_action ha
      rfl

/-! ## The run -/

section Run

variable [IsStrictOrderedRing K] {r : Ruleset K} {st : State K} (h : st.Sound r.toConstants)
  (ps : PlayerId → PlayerState r.toConstants) (skip : PlayerId → Bool)

include h

omit [IsStrictOrderedRing K] in
/-- What the tower commands of a player do to everything else. -/
theorem towerCommands_run {p : PlayerId} (hroom : (st.towers p).length ≤ r.maxNumTowers)
    {ph : CommandPhase K} (hph : st.SameButOrders ph.state)
    (hmoney : ph.stateMoney p = st.moneyManager.playerMoney p) :
    ∃ ph', towerCommands ps skip ph p = .ok ph' ∧ st.SameButOrders ph'.state ∧
      ph'.state = ph.state.carryOutAll ((firstVerdicts st ps skip p).map fun v => (p, v)) ∧
      ph'.errors = ph.errors ++ loggedErrors ((firstVerdicts st ps skip p).map fun v => (p, v)) ∧
      ph'.stateMoney p = (secondLedger st ps skip p).money ∧
      (∀ q, q ≠ p → ph'.stateMoney q = ph.stateMoney q) ∧
      ph'.razedTowers = ph.razedTowers ++ razed st ps skip p := by
  have hverdicts : (if skip p then [] else towerVerdicts st p (ps p) (ph.ledger p)) =
      firstVerdicts st ps skip p := by
    unfold firstVerdicts
    rw [towerVerdicts_congr st p (ps p)
      (show (ph.ledger p).money = (firstLedger st p).money from hmoney)]
  have hledger := foldl_ledger (firstVerdicts st ps skip p) p ph
  obtain ⟨hstate, herrors⟩ := ph.foldl_carryOut p (firstVerdicts st ps skip p)
  refine ⟨_, by rw [towerCommands_eq h hroom ps skip hph, hverdicts],
    hph.trans (sameButOrders_foldl ..), hstate, ?_, ?_,
    fun q hq => CommandPhase.stateMoney_foldl p _ ph hq, ?_⟩
  · rw [herrors, loggedErrors, List.flatMap_map]
  · exact (congrArg Ledger.money hledger).trans (Ledger.money_foldl_congr _ hmoney)
  · exact (congrArg Ledger.razedTowers hledger).trans (Ledger.razedTowers_foldl ..)

/-- What the soldier and build commands of a player do to everything else. -/
theorem soldierAndBuildCommands_run {p : PlayerId} {ph : CommandPhase K}
    (hph : st.SameButOrders ph.state)
    (hmoney : ph.stateMoney p = (secondLedger st ps skip p).money)
    (hrazed : ∀ id, id ∈ ph.razedTowers ↔ id ∈ (secondLedger st ps skip p).razedTowers) :
    ∃ ph', soldierAndBuildCommands ps skip ph p = .ok ph' ∧ st.SameButOrders ph'.state ∧
      ph'.state = ph.state.carryOutAll ((secondVerdicts st ps skip p).map fun v => (p, v)) ∧
      ph'.errors = ph.errors ++ loggedErrors ((secondVerdicts st ps skip p).map fun v => (p, v)) ∧
      (∀ q, q ≠ p → ph'.stateMoney q = ph.stateMoney q) ∧
      ph'.razedTowers = ph.razedTowers := by
  rw [soldierAndBuildCommands_eq h ps skip hph]
  unfold secondVerdicts
  split
  · exact ⟨ph, rfl, hph, rfl, by simp [loggedErrors], fun _ _ => rfl, rfl⟩
  · set ph₀ : CommandPhase K := { ph with currentNumTowers := (st.towers p).length } with hph₀
    have halike : (ph₀.ledger p).Alike (secondLedger st ps skip p) := ⟨hmoney, rfl, hrazed⟩
    have hverdicts := otherVerdicts_congr st p (ps p) halike
    obtain ⟨hstate, herrors⟩ := ph₀.foldl_carryOut p
      (otherVerdicts st p (ps p) (secondLedger st ps skip p))
    have hledger := foldl_ledger (otherVerdicts st p (ps p) (secondLedger st ps skip p)) p ph₀
    refine ⟨_, by dsimp only; rw [hverdicts], ?_, hstate, ?_,
      fun q hq => CommandPhase.stateMoney_foldl p _ ph₀ hq, ?_⟩
    · exact State.SameButOrders.trans hph (sameButOrders_foldl _ p ph₀)
    · rw [herrors, loggedErrors, List.flatMap_map]
    · refine (congrArg Ledger.razedTowers hledger).trans ?_
      rw [Ledger.razedTowers_foldl, suicideId_otherVerdicts h, List.append_nil]
      rfl

/-- **Executing the commands is carrying out the verdicts**, whoever comes first. -/
theorem executeInOrder_eq (hroom : ∀ p, (st.towers p).length ≤ r.maxNumTowers) (p : PlayerId) :
    ∃ ph, executeInOrder [p, p.opponent] ps skip st = .ok ph ∧
      ph.state = st.carryOutAll (allVerdicts st ps skip p) ∧
      ph.errors = loggedErrors (allVerdicts st ps skip p) := by
  have hne := PlayerId.opponent_ne p
  set ph₀ : CommandPhase K := {
    state := st
    errors := []
    stateMoney := st.moneyManager.playerMoney
    razedTowers := []
    currentNumTowers := 0 } with hph₀
  obtain ⟨ph₁, h₁, hsame₁, hstate₁, herrors₁, hmoney₁, hother₁, hrazed₁⟩ :=
    towerCommands_run h ps skip (hroom p) (show st.SameButOrders ph₀.state from .refl st) rfl
  obtain ⟨ph₂, h₂, hsame₂, hstate₂, herrors₂, hmoney₂, hother₂, hrazed₂⟩ :=
    towerCommands_run h ps skip (hroom p.opponent) hsame₁ (hother₁ _ hne)
  have hrazed : ∀ q id, id ∈ ph₂.razedTowers ↔ id ∈ (secondLedger st ps skip q).razedTowers := by
    intro q id
    rw [hrazed₂, hrazed₁]
    cases p <;> simp [hph₀, secondLedger, PlayerId.opponent, or_comm]
  obtain ⟨ph₃, h₃, hsame₃, hstate₃, herrors₃, hother₃, hrazed₃⟩ :=
    soldierAndBuildCommands_run h ps skip hsame₂ ((hother₂ p (Ne.symm hne)).trans hmoney₁)
      (hrazed p)
  obtain ⟨ph₄, h₄, -, hstate₄, herrors₄, -, -⟩ :=
    soldierAndBuildCommands_run h ps skip hsame₃ ((hother₃ _ hne).trans hmoney₂)
      (hrazed₃ ▸ hrazed p.opponent)
  refine ⟨ph₄, ?_, ?_, ?_⟩
  · simp only [executeInOrder, ← hph₀, List.foldlM_cons, List.foldlM_nil, h₁, h₂, h₃, h₄, ok_bind,
      pure_eq_ok]
  · rw [hstate₄, hstate₃, hstate₂, hstate₁]
    simp only [allVerdicts, State.carryOutAll_append]
    rfl
  · rw [herrors₄, herrors₃, herrors₂, herrors₁]
    simp [allVerdicts, loggedErrors, hph₀]

end Run

end StateSyncer

end Simulator
