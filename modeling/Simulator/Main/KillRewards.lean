import Simulator.Main.Runs
import Simulator.State.Onslaught
import Simulator.State.Spoils

/-!
# Kills and rewards

A soldier that uses up the last hp of its target is paid at once, by what damage is
pending.  Whether the target dies is decided in the late update, and there an
invulnerable soldier keeps its hp.  So the rewards of an update are for the soldiers
that die in it, and for the invulnerable soldiers that are hit as hard.

## Beaten soldiers

`Beats` says of a soldier of the opponent that the damage it takes in a turn uses up its hp.  It
is a condition on the state after the commands, since the damage is a sum that can be read off
there.  A beaten soldier is paid for, once; it dies unless it is invulnerable (`Fight.dies_iff`).
So a turn pays for the kills that happen if and only if no invulnerable soldier is beaten in it,
and this is what `Game.paysForKills_iff` says of every turn of every game.

## One player against the other

The soldiers of both players are updated in one phase, player 1's first.  `Fight` takes it apart
from the point of view of a player: `mid` is the state in which its soldiers find the others, and
`after` what they leave.  For player 1 the others are as the towers' phase has left them; for
player 2 they have been updated.  The difference is one that does not matter, except for a soldier
of player 2 that respawns, which player 1's soldiers find dead and its late update finds alive:
`asFaced` is how a soldier is met.
-/

namespace Simulator

open Foundation

variable {K : Type}

namespace Soldier

/-- The soldiers of player 1 are updated first: those of player 2 find one that is
about to respawn respawned. -/
def asFaced (c : Constants K) (u : Soldier K) : Soldier K :=
  if u.playerId = .player1 ∧ u.state = .dead 0 then u.respawned c else u

theorem sameBody_asFaced_next [Field K] [LinearOrder K] [SquareRoot K] (c : Constants K)
    {s : Soldier K} (hp : s.playerId = .player1) (target : Option (Actor K)) :
    (s.asFaced c).SameBody (s.next c target) := by
  by_cases hdead : s.state = .dead 0
  · rw [next_of_dead hdead, if_pos rfl, asFaced, if_pos ⟨hp, hdead⟩]
    exact .refl _
  · rw [asFaced, if_neg fun h => hdead h.2]
    exact sameBody_next c hdead target

end Soldier

namespace State

variable [Field K] [LinearOrder K] [FloorRing K] [SquareRoot K]

omit [FloorRing K] in
/-- The soldiers of player `p` hit soldier `u`, number `j` of the opponent, hard
enough to use up its hp. -/
def Beats (c : Constants K) (st : State K) (p : PlayerId) (u : Soldier K) (j : ℕ) : Prop :=
  (u.asFaced c).hp ≠ 0 ∧ (u.asFaced c).hp ≤ st.onslaught p j (u.asFaced c)

instance (c : Constants K) (st : State K) (p : PlayerId) (u : Soldier K) (j : ℕ) :
    Decidable (st.Beats c p u j) :=
  inferInstanceAs (Decidable (_ ∧ _))

omit [FloorRing K] in
/-- No invulnerable soldier is hit hard enough to use up its hp. -/
def SparesTheInvulnerable (c : Constants K) (st : State K) : Prop :=
  ∀ p (j : ℕ) u, (st.soldiers p.opponent)[j]? = some u → st.Beats c p u j →
    (u.asFaced c).isInvulnerable = false

/-- What the soldiers of player `p` do to the others in an update that takes `st` to
`st'`: they find them as in `mid`, and leave them as in `after`. -/
structure Fight (r : Ruleset K) (p : PlayerId) (st mid after st' : State K) : Prop where
  sound : mid.Sound r.toConstants
  sound_after : after.Sound r.toConstants
  assaulted : Assaulted r.toConstants p mid r.numSoldiers after
  faced : ∀ (j : ℕ) u, (st.soldiers p.opponent)[j]? = some u → ∃ w,
    (mid.soldiers p.opponent)[j]? = some w ∧ (u.asFaced r.toConstants).SameBody w
  onslaught : ∀ j w, mid.onslaught p j w = st.onslaught p j w
  finished : ∀ (j : ℕ) v, (after.soldiers p.opponent)[j]? = some v → v.hp ≠ 0 → ∃ x,
    (st'.soldiers p.opponent)[j]? = some (x.finish r.toConstants) ∧ v.SameBody x
  settled : ∃ kills, after.moneyManager.payouts p = mid.moneyManager.payouts p ++ kills ∧
    Settles (mid.dues p.opponent) (after.dues p.opponent) kills
  payouts_before : mid.moneyManager.payouts p = st.moneyManager.payouts p ++
    (st.towerManagers p).towersToSuicide.map Payout.towerSuicide
  payouts_later : st'.moneyManager.payouts p = after.moneyManager.payouts p
  standing : ∀ t ∈ mid.towers p.opponent, t.hp ≠ 0
  fought : mid.Fought after
  towers_later : st'.towerManagers p.opponent = after.towerManagers p.opponent

section Fight

variable {r : Ruleset K} {p : PlayerId} {st mid after st' : State K}

theorem Fight.sameBody (h : Fight r p st mid after st') (hst : st.Ready r) {j : ℕ}
    {u w : Soldier K} (hu : (st.soldiers p.opponent)[j]? = some u)
    (hw : (mid.soldiers p.opponent)[j]? = some w) :
    (u.asFaced r.toConstants).SameBody w ∧ w.damageIncurred = 0 ∧
      mid.onslaught p j w = st.onslaught p j (u.asFaced r.toConstants) := by
  obtain ⟨w', hw', hbody⟩ := h.faced j u hu
  obtain rfl := Option.some.inj (hw.symm.trans hw')
  refine ⟨hbody, hbody.damageIncurred.trans ?_, ?_⟩
  · unfold Soldier.asFaced
    split
    · exact hst.undamaged p.opponent j u hu
    · exact hst.undamaged p.opponent j u hu
  · rw [h.onslaught, State.onslaught, State.onslaught, blow_congr hbody.position]

theorem Fight.latestHp_before (h : Fight r p st mid after st') (hst : st.Ready r) {j : ℕ}
    {u w : Soldier K} (hu : (st.soldiers p.opponent)[j]? = some u)
    (hw : (mid.soldiers p.opponent)[j]? = some w) :
    w.latestHp = (u.asFaced r.toConstants).hp := by
  obtain ⟨hbody, hzero, -⟩ := h.sameBody hst hu hw
  rw [Soldier.latestHp, hzero, sub_zero, hbody.hp]

theorem Fight.latestHp_after (h : Fight r p st mid after st') (hst : st.Ready r) {j : ℕ}
    {u v : Soldier K} (hu : (st.soldiers p.opponent)[j]? = some u)
    (hv : (after.soldiers p.opponent)[j]? = some v) : v.latestHp = 0 ↔
      (u.asFaced r.toConstants).hp ≤ st.onslaught p j (u.asFaced r.toConstants) := by
  obtain ⟨w, hw, -⟩ := h.faced _ _ hu
  obtain ⟨-, -, honslaught⟩ := h.sameBody hst hu hw
  rw [h.assaulted.damaged h.sound hw] at hv
  obtain rfl := Option.some.inj hv
  rw [Soldier.latestHp_damage_eq_zero, h.latestHp_before hst hu hw, honslaught]

theorem Fight.soldierKills_before (h : Fight r p st mid after st') :
    mid.moneyManager.soldierKills p = st.moneyManager.soldierKills p := by
  have hnone : ((st.towerManagers p).towersToSuicide.map Payout.towerSuicide).countP
      Payout.isSoldierKill = 0 := by
    rw [List.countP_eq_zero]
    intro x hx
    obtain ⟨id, -, rfl⟩ := List.mem_map.mp hx
    exact Bool.false_ne_true
  unfold MoneyManager.soldierKills
  rw [h.payouts_before, List.countP_append, hnone, add_zero]

/-- **The rewards of an update** are for the soldiers that are beaten. -/
theorem Fight.soldierKills (h : Fight r p st mid after st') (hst : st.Ready r) :
    st'.moneyManager.soldierKills p = st.moneyManager.soldierKills p +
      (st.soldiers p.opponent).zipIdx.countP fun x => st.Beats r.toConstants p x.1 x.2 := by
  set l := (st.soldiers p.opponent).zipIdx with hl
  have hlength : ∀ st'' : State K, (st''.soldiers p.opponent).length = r.numSoldiers →
      (st''.soldiers p.opponent).length = l.length := fun st'' hlen => by
    rw [hlen, hl, List.length_zipIdx, hst.sound.length_soldiers]
  have hentry : ∀ {j : ℕ} {x : Soldier K × ℕ}, l[j]? = some x →
      (st.soldiers p.opponent)[j]? = some x.1 ∧ x.2 = j := by
    intro j x hx
    rw [hl, List.getElem?_zipIdx] at hx
    obtain ⟨u, hu, rfl⟩ := Option.map_eq_some_iff.mp hx
    exact ⟨hu, Nat.zero_add j⟩
  have hbefore : mid.fallen p.opponent = l.countP fun x => (x.1.asFaced r.toConstants).hp = 0 :=
    countP_congr_of_getElem? (hlength mid (h.sound.length_soldiers _)) fun j w x hw hx => by
      rw [h.latestHp_before hst (hentry hx).1 hw]
  have hafter : after.fallen p.opponent = l.countP fun x =>
      (x.1.asFaced r.toConstants).hp ≤ st.onslaught p x.2 (x.1.asFaced r.toConstants) := by
    refine countP_congr_of_getElem? (hlength after (h.sound_after.length_soldiers _)) ?_
    intro j v x hv hx
    obtain ⟨hu, rfl⟩ := hentry hx
    exact decide_eq_decide.mpr (h.latestHp_after hst hu hv)
  have hadd : l.countP (fun x =>
        (x.1.asFaced r.toConstants).hp ≤ st.onslaught p x.2 (x.1.asFaced r.toConstants)) =
      l.countP (fun x => (x.1.asFaced r.toConstants).hp = 0) +
        l.countP fun x => st.Beats r.toConstants p x.1 x.2 := by
    refine countP_add ?_
    intro x _
    have hnonneg := hst.sound.onslaught_nonneg p x.2 (x.1.asFaced r.toConstants)
    by_cases hzero : (x.1.asFaced r.toConstants).hp = 0
    · simp [Beats, hzero, hnonneg]
    · simp [Beats, hzero]
  have hpaid := h.assaulted.paid
  rw [hbefore, hafter, hadd, h.soldierKills_before] at hpaid
  rw [MoneyManager.soldierKills, h.payouts_later, ← MoneyManager.soldierKills]
  omega

/-- **The deaths of an update** are those of the soldiers that are beaten and not
invulnerable. -/
theorem Fight.dies_iff (h : Fight r p st mid after st') (hst : st.Ready r) {j : ℕ} {u v : Soldier K}
    (hu : (st.soldiers p.opponent)[j]? = some u) (hv : (st'.soldiers p.opponent)[j]? = some v) :
    0 < u.hp ∧ v.hp = 0 ↔
      st.Beats r.toConstants p u j ∧ (u.asFaced r.toConstants).isInvulnerable = false := by
  have hsound := hst.sound.soldier p.opponent j u hu
  by_cases hhp : u.hp = 0
  · -- a soldier that has been dead and is not dead when it is met has just respawned
    have himmune : (u.asFaced r.toConstants).hp ≠ 0 →
        (u.asFaced r.toConstants).isInvulnerable = true := by
      unfold Soldier.asFaced
      split
      · exact fun _ => rfl
      · exact fun h0 => absurd hhp h0
    refine ⟨fun h' => absurd hhp h'.1.ne', ?_⟩
    intro h'
    rw [himmune h'.1.1] at h'
    exact absurd h'.2 (by simp)
  · obtain ⟨w, hw, -⟩ := h.faced _ _ hu
    obtain ⟨hbody, hzero, honslaught⟩ := h.sameBody hst hu hw
    have hfaced : u.asFaced r.toConstants = u := by
      have halive := hsound.state_ne_dead hhp
      exact if_neg fun h' => by simp [h'.2, SoldierState.isDead] at halive
    unfold Beats
    rw [hfaced] at hbody honslaught ⊢
    have hafter := h.assaulted.damaged h.sound hw
    obtain ⟨x, hx, hbody'⟩ := h.finished j _ hafter (show w.hp ≠ 0 from hbody.hp ▸ hhp)
    obtain rfl := Option.some.inj (hv.symm.trans hx)
    have hnonneg := hsound.hp_nonneg
    have hlatest : x.latestHp = (w.damage (mid.onslaught p j w)).latestHp := by
      rw [Soldier.latestHp, hbody'.hp, hbody'.damageIncurred, Soldier.latestHp]
    have hhp' : x.hp = u.hp := hbody'.hp.trans hbody.hp
    have hfallen : x.latestHp = 0 ↔ u.hp ≤ st.onslaught p j u := by
      rw [hlatest, Soldier.latestHp_damage_eq_zero, Soldier.latestHp, hzero, sub_zero, hbody.hp,
        honslaught]
    have himmune : x.isInvulnerable = u.isInvulnerable :=
      hbody'.isInvulnerable.trans hbody.isInvulnerable
    rw [Soldier.hp_finish, himmune]
    cases hinv : u.isInvulnerable with
    | true => simp [hhp', hhp]
    | false =>
      simp only [Bool.false_eq_true, if_false, hfallen, and_true]
      omega

/-- **Each kill is paid for once**: the rewards of an update are those for the demolitions,
and one for every soldier that is beaten and for every tower that has fallen. -/
theorem Fight.exists_kills (h : Fight r p st mid after st') (hst : st.Ready r) :
    ∃ kills, st'.moneyManager.payouts p = st.moneyManager.payouts p ++
        (st.towerManagers p).towersToSuicide.map Payout.towerSuicide ++ kills ∧
      kills.Nodup ∧
      (∀ (j : ℕ) u, (st.soldiers p.opponent)[j]? = some u →
        (.soldierKill u.id ∈ kills ↔ st.Beats r.toConstants p u j)) ∧
      ∀ t ∈ st'.towers p.opponent, (.towerKill t.id ∈ kills ↔ t.hp = 0) := by
  obtain ⟨kills, hpayouts, hsettles⟩ := h.settled
  refine ⟨kills, ?_, hsettles.nodup, ?_, ?_⟩
  · rw [h.payouts_later, hpayouts, h.payouts_before]
  · intro j u hu
    obtain ⟨w, hw, -⟩ := h.faced j u hu
    have hv := h.assaulted.damaged h.sound hw
    have huw : u.id = w.id := (hst.sound.soldier _ j u hu).id_eq.trans
      (h.sound.soldier _ j w hw).id_eq.symm
    have hbefore := h.sound.soldierKill_mem_dues hw
    have hafter := h.sound_after.soldierKill_mem_dues hv
    rw [h.latestHp_before hst hu hw] at hbefore
    rw [h.latestHp_after hst hu hv] at hafter
    rw [hsettles.mem_iff, huw, hbefore]
    exact (and_congr_left fun _ => hafter).trans and_comm
  · intro t ht
    rw [State.towers, h.towers_later] at ht
    have hafter := h.sound_after.towerKill_mem_dues (TowerManager.mem_allocatedTowers_of_mem ht)
    -- the tower was standing before the fight
    obtain ⟨g, hg, hmanager⟩ := h.fought.manager p.opponent
    rw [hmanager] at ht
    obtain ⟨w, hw, rfl⟩ := List.mem_map.mp ht
    have hmem := TowerManager.mem_allocatedTowers_of_mem hw
    have hbefore := h.sound.towerKill_mem_dues hmem
    rw [hsettles.mem_iff, hafter, (hg w hmem).id, hbefore]
    exact and_iff_left (h.standing w hw)

end Fight

/-- **Every update is a fight**, for either player. -/
theorem Ready.exists_fight [IsStrictOrderedRing K] {r : Ruleset K} {st st' : State K}
    (h : st.Ready r) (hupdate : State.update r.toConstants st = .ok st') (p : PlayerId) :
    ∃ mid after, Fight r p st mid after st' := by
  obtain ⟨st₁, st₂, -, hu₁, hu₂, -, hs₂, hrun, -⟩ := h.updateInOrder .player1
  have hsoldiers : st₂.soldiers = st.soldiers := hu₂.soldiers.trans hu₁.soldiers
  have hpaid := hu₁.payouts_eq hu₂
  have hstanding : ∀ q, ∀ t ∈ st₂.towers q, t.hp ≠ 0 := hu₁.towers_alive hu₂
  set stA := st₂.actAll r.toConstants (roster r.toConstants [.player1]) with hstA
  set stB := stA.actAll r.toConstants (roster r.toConstants [.player2]) with hstB
  have hsA : stA.Sound r.toConstants := hs₂.actAll _
  have hsB : stB.Sound r.toConstants := hsA.actAll _
  have hA := hs₂.assaulted .player1
  have hB := hsA.assaulted .player2
  have hl : (roster r.toConstants [.player1, .player2]).Nodup := nodup_roster _ (by decide)
  have hst' : st' = stB.finishAll r.toConstants (roster r.toConstants [.player1, .player2]) := by
    have hroster : roster r.toConstants [.player1, .player2] =
        roster r.toConstants [.player1] ++ roster r.toConstants [.player2] := by simp [roster]
    have hact : st₂.actAll r.toConstants (roster r.toConstants [.player1, .player2]) = stB := by
      rw [hstB, hstA, State.actAll, State.actAll, State.actAll, hroster, List.foldl_append]
    rw [← Except.ok.inj (hrun.symm.trans hupdate), ← hact]
    rfl
  have hfinish : ∀ q (j : ℕ) x, (stB.soldiers q)[j]? = some x →
      (st'.soldiers q)[j]? = some (x.finish r.toConstants) := by
    intro q j x hx
    have hmem : (q, j) ∈ roster r.toConstants [.player1, .player2] :=
      mem_roster.mpr ⟨PlayerId.mem_all q, hsB.slot_lt hx⟩
    rw [hst', getElem?_finishAll _ hl, hx, Option.map_some, if_pos hmem]
  have hmoney : st'.moneyManager = stB.moneyManager := by rw [hst', moneyManager_finishAll _ hl]
  have hmanagers : st'.towerManagers = stB.towerManagers := by
    rw [hst', towerManagers_finishAll _ hl]
  cases p with
  | player1 =>
    refine ⟨st₂, stA, hs₂, hsA, hA, ?_, ?_, ?_,
      hs₂.settles_roster .player1, hpaid .player1, ?_, hstanding .player2, hs₂.fought_actAll _, ?_⟩
    · intro j u hu
      refine ⟨u, hsoldiers ▸ hu, ?_⟩
      have hplayer : u.playerId = .player2 := (h.sound.soldier .player2 j u hu).playerId_eq
      rw [Soldier.asFaced, if_neg fun h' => by simp [hplayer] at h']
      exact .refl u
    · intro j w
      rw [State.onslaught, State.onslaught, hsoldiers]
    · intro j v hv hhp
      have hsound := hsA.soldier .player2 j v hv
      have halive := hsound.state_ne_dead hhp
      obtain ⟨target, hx⟩ := hB.acted j v hv (hsA.slot_lt hv)
      exact ⟨_, hfinish _ _ _ hx, Soldier.sameBody_next _
        (fun h' => by simp [h', SoldierState.isDead] at halive) target⟩
    · rw [hmoney]
      exact hsA.payouts_roster (by decide)
    · rw [hmanagers]
      exact hsA.towerManagers_roster_self .player2
  | player2 =>
    have hself : stA.towerManagers .player1 = st₂.towerManagers .player1 :=
      hs₂.towerManagers_roster_self .player1
    refine ⟨stA, stB, hsA, hsB, hB, ?_, ?_, ?_,
      hsA.settles_roster .player2, ?_, by rw [hmoney], ?_, hsA.fought_actAll _, by rw [hmanagers]⟩
    · intro j u hu
      obtain ⟨target, hw⟩ := hA.acted j u (hsoldiers ▸ hu) (h.sound.slot_lt hu)
      exact ⟨_, hw, Soldier.sameBody_asFaced_next _ (h.sound.soldier .player1 j u hu).playerId_eq _⟩
    · intro j w
      refine (hA.onslaught_opponent hs₂ hsA j w).trans ?_
      rw [PlayerId.opponent, State.onslaught, State.onslaught, hsoldiers]
    · intro j v hv _
      exact ⟨v, hfinish _ _ _ hv, .refl v⟩
    · exact (hs₂.payouts_roster (by decide)).trans (hpaid .player2)
    · show ∀ t ∈ (stA.towerManagers .player1).towers, t.hp ≠ 0
      rw [hself]
      exact hstanding .player1

end State

/-! ## Paying for kills -/

/-- The number of soldiers of a player that die in the update of a turn. -/
def Turn.deaths (t : Turn K) (p : PlayerId) : ℕ :=
  ((t.commanded.soldiers p).zip (t.after.soldiers p)).countP fun x => 0 < x.1.hp ∧ x.2.hp = 0

/-- In its update the turn pays a player for as many soldiers as the opponent
loses. -/
def Turn.PaysForKills (t : Turn K) : Prop :=
  ∀ p, t.after.moneyManager.soldierKills p =
    t.commanded.moneyManager.soldierKills p + t.deaths p.opponent

section Runs

variable [Field K] [LinearOrder K] [FloorRing K] [SquareRoot K] [IsStrictOrderedRing K]
  {r : Ruleset K}

/-- **Rewards and deaths of an update**: what is paid for beyond the deaths are the
invulnerable soldiers that are beaten. -/
theorem Turn.IsPlayed.soldierKills {t : Turn K} (ht : t.IsPlayed r) (h : t.before.Rested r)
    (p : PlayerId) :
    t.after.moneyManager.soldierKills p = t.commanded.moneyManager.soldierKills p +
      t.deaths p.opponent + (t.commanded.soldiers p.opponent).zipIdx.countP fun x =>
        t.commanded.Beats r.toConstants p x.1 x.2 ∧
          (x.1.asFaced r.toConstants).isInvulnerable = true := by
  obtain ⟨hready, hrested⟩ := ht.ready h
  obtain ⟨input, ph, -, -, hupdate⟩ := ht
  obtain ⟨mid, after, hfight⟩ := hready.exists_fight hupdate p
  have hlength : (t.commanded.soldiers p.opponent).length = (t.after.soldiers p.opponent).length :=
    (hready.sound.length_soldiers _).trans (hrested.sound.length_soldiers _).symm
  have hdeaths : t.deaths p.opponent = (t.commanded.soldiers p.opponent).zipIdx.countP fun x =>
      t.commanded.Beats r.toConstants p x.1 x.2 ∧
        (x.1.asFaced r.toConstants).isInvulnerable = false := by
    refine countP_congr_of_getElem? (by simp [← hlength]) ?_
    intro j x y hx hy
    obtain ⟨hu, hv⟩ := List.getElem?_zip_eq_some.mp hx
    rw [List.getElem?_zipIdx, hu] at hy
    obtain rfl := Option.some.inj hy
    refine decide_eq_decide.mpr ?_
    rw [hfight.dies_iff hready hu hv, Nat.zero_add]
  rw [hfight.soldierKills hready, hdeaths, Nat.add_assoc]
  congr 1
  refine countP_add ?_
  intro x _
  by_cases hbeats : t.commanded.Beats r.toConstants p x.1 x.2 <;>
    cases (x.1.asFaced r.toConstants).isInvulnerable <;> simp [hbeats]

/-- **A kill is paid for exactly if it happens, in the turns in which no invulnerable
soldier is beaten**, and in no others. -/
theorem Game.paysForKills_iff {past : List (Turn K)} {st : State K} (h : Game r past st)
    {t : Turn K} (ht : t ∈ past) :
    t.PaysForKills ↔ t.commanded.SparesTheInvulnerable r.toConstants := by
  obtain ⟨hplayed, hrested⟩ := h.isPlayed ht
  have hnone : ∀ p, t.after.moneyManager.soldierKills p =
      t.commanded.moneyManager.soldierKills p + t.deaths p.opponent ↔
        ∀ (j : ℕ) u, (t.commanded.soldiers p.opponent)[j]? = some u →
          t.commanded.Beats r.toConstants p u j →
            (u.asFaced r.toConstants).isInvulnerable = false := by
    intro p
    rw [hplayed.soldierKills hrested p, Nat.add_eq_left, List.countP_eq_zero]
    constructor
    · intro hall j u hu hbeats
      have hmem : (u, j) ∈ (t.commanded.soldiers p.opponent).zipIdx := by
        rw [List.mem_zipIdx_iff_getElem?]
        exact hu
      simpa [hbeats] using hall _ hmem
    · intro hall x hx
      have hu := List.mem_zipIdx_iff_getElem?.mp hx
      rw [decide_eq_true_eq, not_and, Bool.not_eq_true]
      exact hall x.2 x.1 hu
  exact forall_congr' hnone

omit [Field K] [LinearOrder K] [FloorRing K] [SquareRoot K] [IsStrictOrderedRing K] in
/-- The first turn of the small game, in which the soldier of player 1 kills that of
player 2. -/
theorem paysForKills_iff_sample : ∃ past st, Game sampleRules past st ∧ ∃ t ∈ past,
    t.deaths .player2 = 1 ∧
      (t.PaysForKills ↔ t.commanded.SparesTheInvulnerable sampleRules.toConstants) := by
  have hrun : ((buildState sampleRules.toConstants).toOption.bind fun st₀ =>
      (execute (bothPlay sampleRules (.attackSoldier _ 0 1) (.quiet _)) st₀).toOption.bind fun ph =>
      (State.update sampleRules.toConstants ph.state).toOption.bind fun st₁ =>
      some ((Turn.mk st₀ ph.state st₁).deaths .player2)) = some 1 := by
    decide +kernel
  obtain ⟨st₀, h₀, hrun⟩ := exists_of_toOption_bind hrun
  obtain ⟨ph, hph, hrun⟩ := exists_of_toOption_bind hrun
  obtain ⟨st₁, hupdate, hrun⟩ := exists_of_toOption_bind hrun
  have hgame : Game sampleRules ([] ++ [⟨st₀, ph.state, st₁⟩]) st₁ :=
    .turn (t := ⟨st₀, ph.state, st₁⟩) (.start h₀) ⟨_, ph, hph, rfl, hupdate⟩
  exact ⟨_, st₁, hgame, _, List.mem_singleton_self _, Option.some.inj hrun,
    hgame.paysForKills_iff (List.mem_singleton_self _)⟩

omit [Field K] [LinearOrder K] [FloorRing K] [SquareRoot K] [IsStrictOrderedRing K] in
/-- **A kill that does not happen is paid for.**  The soldier of player 1 kills that of
player 2, and attacks it again when it has just respawned: it is paid a second time,
and the soldier lives on. -/
theorem not_paysForKills_sample : ∃ past st, Game sampleRules past st ∧
    play sampleRules [bothPlay _ (.attackSoldier _ 0 1) (.quiet _),
      bothPlay _ (.quiet _) (.quiet _),
      bothPlay _ (.quiet _) (.quiet _), bothPlay _ (.attackSoldier _ 0 1) (.quiet _)] = .ok st ∧
    st.moneyManager.payouts .player1 = [.soldierKill 1, .soldierKill 1] ∧
    ∃ t ∈ past, t.deaths .player2 = 0 ∧ ¬ t.PaysForKills := by
  have hrun : ((play sampleRules [bothPlay _ (.attackSoldier _ 0 1) (.quiet _),
        bothPlay _ (.quiet _) (.quiet _),
        bothPlay _ (.quiet _) (.quiet _)]).toOption.bind fun st₃ =>
      (execute (bothPlay sampleRules (.attackSoldier _ 0 1) (.quiet _)) st₃).toOption.bind fun ph =>
      (State.update sampleRules.toConstants ph.state).toOption.bind fun st₄ =>
      some ((Turn.mk st₃ ph.state st₄).deaths .player2,
        ph.state.moneyManager.soldierKills .player1,
        st₄.moneyManager.payouts .player1)) =
      some (0, 1, [.soldierKill 1, .soldierKill 1]) := by
    decide +kernel
  obtain ⟨st₃, hplay, hrun⟩ := exists_of_toOption_bind hrun
  obtain ⟨ph, hph, hrun⟩ := exists_of_toOption_bind hrun
  obtain ⟨st₄, hupdate, hrun⟩ := exists_of_toOption_bind hrun
  obtain ⟨hdeaths, hrun⟩ := Prod.mk.inj (Option.some.inj hrun)
  obtain ⟨hone, hpayouts⟩ := Prod.mk.inj hrun
  obtain ⟨past, -, hgame⟩ := game_of_play hplay
  have hturn : playTurn sampleRules st₃ (bothPlay _ (.attackSoldier _ 0 1) (.quiet _)) = .ok st₄ :=
    bind_eq_ok.mpr ⟨ph, hph, hupdate⟩
  refine ⟨_, st₄, hgame.turn (t := ⟨st₃, ph.state, st₄⟩) ⟨_, ph, hph, rfl, hupdate⟩,
    play_concat hplay hturn, hpayouts, ⟨st₃, ph.state, st₄⟩, by simp, hdeaths, ?_⟩
  intro hpays
  have htwo : st₄.moneyManager.soldierKills .player1 = 2 := by
    rw [MoneyManager.soldierKills, hpayouts]
    rfl
  have hclaim := hpays .player1
  change st₄.moneyManager.soldierKills .player1 =
    ph.state.moneyManager.soldierKills .player1 + _ at hclaim
  rw [htwo, hone] at hclaim
  change 2 = 1 + Turn.deaths _ .player2 at hclaim
  omega

end Runs

end Simulator
