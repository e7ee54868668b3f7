import Simulator.Main.KillRewards
import Simulator.Main.Respawning
import Simulator.Main.UpdateOrders

/-!
# The lives of the soldiers

A game interleaves its soldiers: all are updated before any is updated late, and each may
hit others while they wait.  Seen from one slot nothing of this is left but events: the
orders `StateSyncer` accepts, the damage before and after the soldier's own update, and
what that finds behind its target pointer.  So what is true of a soldier by itself,
whatever happens to it (`Soldier.Plays`), is true of every soldier of a game.

`Turn.IsPlayed.exists_lives` is the projection of a turn to a slot.  The damage is the onslaught
of the opponent as the commands leave it, all of it, whatever comes first.
-/

namespace Simulator

open Foundation

variable {K : Type}

namespace Soldier

/-- A command. -/
def Event.IsOrder : Event K → Prop
  | .damage _ => False
  | .move _ | .attack _ => True

theorem Event.damageAmount_of_isOrder {e : Event K} (h : e.IsOrder) : e.damageAmount = 0 := by
  cases e with
  | damage d => exact h.elim
  | move destination => rfl
  | attack ptr => rfl

end Soldier

namespace State

variable [Field K] [LinearOrder K] [FloorRing K] [SquareRoot K]

/-! ## The commands -/

omit [SquareRoot K] in
/-- **What the commands do to a slot**: its soldier gets orders, all of them while it is
alive. -/
theorem Rested.exists_orders {r : Ruleset K} {st : State K} (h : st.Rested r)
    (ps : PlayerId → PlayerState r.toConstants) (skip : PlayerId → Bool) (first : PlayerId)
    {p : PlayerId} {i : ℕ} {s : Soldier K} (hs : (st.soldiers p)[i]? = some s) :
    ∃ orders : List (Soldier.Event K), (∀ o ∈ orders, o.IsOrder ∧ o.Allowed s) ∧
      ((st.carryOutAll (StateSyncer.allVerdicts st ps skip first)).soldiers p)[i]? =
        some (orders.foldl Soldier.Event.happen s) := by
  refine st.carryOutAll_invariant (I := fun st' => ∃ orders : List (Soldier.Event K),
    (∀ o ∈ orders, o.IsOrder ∧ o.Allowed s) ∧
      (st'.soldiers p)[i]? = some (orders.foldl Soldier.Event.happen s)) ⟨[], nofun, hs⟩ ?_
  rintro st' hsame ⟨orders, horders, hslot⟩ ⟨q, errors, action⟩ hx
  have haccepted : ∀ a, action = some a → StateSyncer.Accepted r.toConstants st q a := fun a ha =>
    StateSyncer.accepted_playerVerdicts h.sound ps skip q (StateSyncer.mem_playerVerdicts hx) ha
  -- an order for the soldier itself was accepted because the soldier is alive
  have halive : st.Lists (.soldier p i) → s.hp ≠ 0 := by
    rintro ⟨s', hs', hhp⟩
    rwa [Option.some.inj (hs.symm.trans hs')]
  have horder : ∀ (j : ℕ) (o : Soldier.Event K), o.IsOrder → (st.Lists (.soldier q j)) →
      (s.hp ≠ 0 → o.Allowed s) → ∃ orders : List (Soldier.Event K),
        (∀ o ∈ orders, o.IsOrder ∧ o.Allowed s) ∧
        ((st'.modifySoldier q j (Soldier.Event.happen · o)).soldiers p)[i]? =
          some (orders.foldl Soldier.Event.happen s) := by
    intro j o ho hlisted hallowed
    rw [getElem?_modifySoldier, hslot, Option.map_some]
    by_cases hself : p = q ∧ i = j
    · obtain ⟨rfl, rfl⟩ := hself
      refine ⟨orders ++ [o], ?_, ?_⟩
      · intro o' ho'
        rcases List.mem_append.mp ho' with ho' | ho'
        · exact horders o' ho'
        · obtain rfl := List.mem_singleton.mp ho'
          exact ⟨ho, hallowed (halive hlisted)⟩
      · rw [if_pos ⟨rfl, rfl⟩, List.foldl_append]
        rfl
    · exact ⟨orders, horders, by rw [if_neg hself]⟩
  cases action with
  | none => exact ⟨orders, horders, hslot⟩
  | some action =>
    cases action with
    | upgrade towerId cost => exact ⟨orders, horders, hslot⟩
    | suicide towerId => exact ⟨orders, horders, hslot⟩
    | build offset cost => exact ⟨orders, horders, hslot⟩
    | move j position => exact horder j (.move position) trivial (haccepted _ rfl) fun h0 => h0
    | attack j target =>
      exact horder j (.attack target) trivial (haccepted _ rfl).1 fun h0 => h0

/-! ## The updates -/

section Roster

variable {r : Ruleset K} {st : State K} {p : PlayerId} {i : ℕ} {u : Soldier K}

/-- The state in which soldier `i` of player `p` is updated, when the soldiers of the
player are updated from `st` on. -/
def facing (c : Constants K) (st : State K) (p : PlayerId) (i : ℕ) : State K :=
  st.actAll c ((List.range i).map fun k => (p, k))

omit [FloorRing K] in
theorem facing_succ (c : Constants K) (st : State K) (p : PlayerId) (i : ℕ) :
    st.facing c p (i + 1) = (st.facing c p i).apply ((st.facing c p i).actEffect c p i) := by
  simp [facing, State.actAll, List.range_succ, List.foldl_append]

omit [FloorRing K] in
theorem actAll_roster (c : Constants K) (st : State K) (p : PlayerId) :
    st.actAll c (roster c [p]) = st.facing c p c.numSoldiers := by
  simp [facing, roster]

theorem Sound.facing (h : st.Sound r.toConstants) (p : PlayerId) (i : ℕ) :
    (st.facing r.toConstants p i).Sound r.toConstants := h.actAll _

/-- **The update of a soldier among those of its player.** -/
theorem Sound.slot_roster (h : st.Sound r.toConstants) (hu : (st.soldiers p)[i]? = some u) :
    (st.facing r.toConstants p i).Sound r.toConstants ∧
      ((st.facing r.toConstants p i).soldiers p)[i]? = some u ∧
      ((st.actAll r.toConstants (roster r.toConstants [p])).soldiers p)[i]? =
        some (u.next r.toConstants ((st.facing r.toConstants p i).targetOf p i)) := by
  have hi := h.slot_lt hu
  have hwaits : ((st.facing r.toConstants p i).soldiers p)[i]? = some u :=
    (h.assaulted_range p hi.le).waiting i u hu le_rfl
  refine ⟨h.facing p i, hwaits, ?_⟩
  -- the soldier is updated in its round, and the later rounds leave it
  have hafter : ∀ n, i + 1 ≤ n → ((st.facing r.toConstants p n).soldiers p)[i]? =
      some (u.next r.toConstants ((st.facing r.toConstants p i).targetOf p i)) := by
    intro n hn
    induction n, hn using Nat.le_induction with
    | base => rw [facing_succ, (h.facing p i).self_actEffect hwaits, if_pos rfl]
    | succ n hn ih => rw [facing_succ, (h.facing p n).self_actEffect ih, if_neg (by omega)]
  rw [actAll_roster]
  exact hafter r.numSoldiers hi

theorem Sound.fought_facing (h : st.Sound r.toConstants) (hi : i < r.numSoldiers) :
    (st.facing r.toConstants p i).Fought (st.actAll r.toConstants (roster r.toConstants [p])) := by
  rw [actAll_roster]
  induction r.numSoldiers, hi.le using Nat.le_induction with
  | base => exact .refl _
  | succ n hn ih =>
    rw [facing_succ]
    exact ih.trans
      ⟨fun q => ⟨_, fun t _ => (h.facing p n).worn_actEffect p n q t, rfl⟩, rfl, rfl⟩

omit [Field K] [LinearOrder K] [FloorRing K] [SquareRoot K] in
/-- A tower that is listed after fights is what they have left of a listed one. -/
theorem Fought.exists_worn {st' : State K} (h : st.Fought st') {q : PlayerId} {w : Tower K}
    (hw : w ∈ st'.towers q) : ∃ v ∈ st.towers q, v.Worn w := by
  obtain ⟨g, hg, hm⟩ := h.manager q
  rw [State.towers, hm, TowerManager.mapTowers, List.mem_map] at hw
  obtain ⟨v, hv, rfl⟩ := hw
  exact ⟨v, hv, hg v (TowerManager.mem_allocatedTowers_of_mem hv)⟩

omit [SquareRoot K] in
/-- So the update of a soldier finds it, if it is the soldier's target. -/
theorem Sound.exists_targetOf (h : st.Sound r.toConstants) {st' : State K} (hfought : st.Fought st')
    (hu : (st.soldiers p)[i]? = some u) {q : PlayerId} {w : Tower K} (hw : w ∈ st'.towers q)
    (hptr : u.attackTarget = some (.tower q w.id)) :
    ∃ v, st.targetOf p i = some (.tower v) ∧ v.Worn w := by
  obtain ⟨v, hv, hworn⟩ := hfought.exists_worn hw
  refine ⟨v, ?_, hworn⟩
  rw [targetOf_eq hu]
  show u.attackTarget.bind st.deref = _
  rw [hptr, Option.bind_some]
  exact h.deref_tower.mpr ⟨v, TowerManager.mem_allocatedTowers_of_mem hv, hworn.id.symm, rfl⟩

end Roster

end State

/-! ## The projection -/

section Runs

variable [Field K] [LinearOrder K] [FloorRing K] [SquareRoot K] [IsStrictOrderedRing K]
  {r : Ruleset K} {past : List (Turn K)} {st : State K} {t : Turn K} {p : PlayerId} {i : ℕ}
  {s : Soldier K}

theorem Game.resting (h : Game r past st) (hs : (st.soldiers p)[i]? = some s) :
    s.Resting r.toConstants := by
  have hsound := h.rested.sound.soldier p i s hs
  exact ⟨hsound.orderly, hsound.orderly.atRest (h.rested.settled p i s hs)
    (h.rested.undamaged p i s hs) (h.unmoved p i s hs), hsound.maxHp_eq ▸ r.soldierMaxHp_pos⟩

/-- What a turn of the game is to the soldier in slot `i` of player `p`: it gets orders,
takes damage, is updated, takes damage, and is updated late. -/
structure Turn.Lives (r : Ruleset K) (t : Turn K) (p : PlayerId) (i : ℕ)
    (e : Soldier.TurnEvents K) (s s' : Soldier K) : Prop where
  before : (t.before.soldiers p)[i]? = some s
  after : (t.after.soldiers p)[i]? = some s'
  plays : Soldier.Plays r.toConstants e s s'
  /-- The orders are those of the commands. -/
  orders : ∃ (orders : List (Soldier.Event K)) (d : ℤ),
    (∀ o ∈ orders, o.IsOrder) ∧ e.before = orders ++ [.damage d] ∧
      (t.commanded.soldiers p)[i]? = some (orders.foldl Soldier.Event.happen s)
  /-- The damage is the onslaught of the opponent. -/
  dealt : ∀ u, (t.commanded.soldiers p)[i]? = some u →
    e.dealt = t.commanded.onslaught p.opponent i (u.asFaced r.toConstants)
  /-- A tower that is a target and is still listed is what the update has found, with the
  damage it has taken since. -/
  target : ∀ w ∈ t.after.towers p.opponent,
    (e.met s).attackTarget = some (.tower p.opponent w.id) →
      ∃ v, e.target = some (.tower v) ∧ v.Worn w

/-- The events of a turn with `d` before the update and `d'` after it. -/
def lifeEvents (orders : List (Soldier.Event K)) (d d' : ℤ) (target : Option (Actor K))
    (moneyManager : MoneyManager) : Soldier.TurnEvents K where
  before := orders ++ [.damage d]
  target := target
  moneyManager := moneyManager
  after := [d']

omit [Field K] [LinearOrder K] [FloorRing K] [SquareRoot K] [IsStrictOrderedRing K] in
@[simp] theorem met_lifeEvents (orders : List (Soldier.Event K)) (d d' : ℤ)
    (target : Option (Actor K)) (moneyManager : MoneyManager) (s : Soldier K) :
    (lifeEvents orders d d' target moneyManager).met s =
      (orders.foldl Soldier.Event.happen s).damage d := by
  rw [Soldier.TurnEvents.met, lifeEvents, List.foldl_append]
  rfl

omit [Field K] [LinearOrder K] [FloorRing K] [SquareRoot K] [IsStrictOrderedRing K] in
theorem dealt_lifeEvents {orders : List (Soldier.Event K)} (horders : ∀ o ∈ orders, o.IsOrder)
    {d d' : ℤ} {target : Option (Actor K)} {moneyManager : MoneyManager} :
    (lifeEvents orders d d' target moneyManager).dealt = d + d' := by
  have hzero : (orders.map Soldier.Event.damageAmount).sum = 0 := by
    refine List.sum_eq_zero ?_
    intro x hx
    obtain ⟨o, ho, rfl⟩ := List.mem_map.mp hx
    exact Soldier.Event.damageAmount_of_isOrder (horders o ho)
  simp [Soldier.TurnEvents.dealt, lifeEvents, hzero, Soldier.Event.damageAmount]

omit [IsStrictOrderedRing K] in
theorem Soldier.Resting.plays {c : Constants K} (hs : s.Resting c)
    (hT : 1 ≤ c.soldierTotalTurnsToRespawn) {orders : List (Soldier.Event K)}
    (horders : ∀ o ∈ orders, o.Allowed s) {d d' : ℤ} (hd : 0 ≤ d) (hd' : 0 ≤ d')
    {mid : State K} {u : Soldier K} (hu : orders.foldl Soldier.Event.happen s = u)
    (hmid : mid.Sound r.toConstants) (hslot : (mid.soldiers p)[i]? = some (u.damage d)) :
    Soldier.Plays c (lifeEvents orders d d' (mid.targetOf p i) mid.moneyManager) s
      ((((u.damage d).next c (mid.targetOf p i)).damage d').finish c) := by
  have hmet : (lifeEvents orders d d' (mid.targetOf p i) mid.moneyManager).met s =
      u.damage d := by
    rw [met_lifeEvents, hu]
  have hready := hmid.ready hslot
  have htarget : mid.targetOf p i = (mid.frameOf (u.damage d)).target := State.targetOf_eq hslot
  have hallowed : ∀ o ∈ orders ++ [.damage d], o.Allowed s := by
    intro o ho
    rcases List.mem_append.mp ho with ho | ho
    · exact horders o ho
    · obtain rfl := List.mem_singleton.mp ho
      exact hd
  have hafter : ∀ x ∈ [d'], 0 ≤ x := by
    intro x hx
    obtain rfl := List.mem_singleton.mp hx
    exact hd'
  obtain ⟨s', hplays⟩ := hs.exists_plays
    (e := lifeEvents orders d d' (mid.targetOf p i) mid.moneyManager) hT hallowed hafter
    (by rw [hmet]; exact htarget ▸ hready.target_iff) fun a ha => hready.rewards a (htarget ▸ ha)
  obtain ⟨rfl, -⟩ := hplays.eq_finish hs hT
  rw [Soldier.TurnEvents.hurt, hmet] at hplays
  exact hplays

/-- What is left of a played turn when a slot is done: what the slot has found, and the
late update. -/
structure Turn.Slot (r : Ruleset K) (t : Turn K) (p : PlayerId) (i : ℕ) (mid : State K)
    (u : Soldier K) (d d' : ℤ) : Prop where
  sound : mid.Sound r.toConstants
  slot : (mid.soldiers p)[i]? = some (u.damage d)
  fought : mid.Fought t.after
  after : (t.after.soldiers p)[i]? = some
    ((((u.damage d).next r.toConstants (mid.targetOf p i)).damage d').finish r.toConstants)
  nonneg : 0 ≤ d ∧ 0 ≤ d'
  sum : d + d' = t.commanded.onslaught p.opponent i (u.asFaced r.toConstants)

/-- **Either player's slots are updated somewhere in the turn.** -/
theorem Turn.exists_slot (h : t.commanded.Ready r)
    (hupdate : State.update r.toConstants t.commanded = .ok t.after) {u : Soldier K}
    (hu : (t.commanded.soldiers p)[i]? = some u) : ∃ mid d d', t.Slot r p i mid u d d' := by
  obtain ⟨st₁, st₂, -, hu₁, hu₂, -, hs₂, hrun, -⟩ := h.updateInOrder .player1
  have hsoldiers : st₂.soldiers = t.commanded.soldiers := hu₂.soldiers.trans hu₁.soldiers
  set stA := st₂.actAll r.toConstants (State.roster r.toConstants [.player1]) with hstA
  set stB := stA.actAll r.toConstants (State.roster r.toConstants [.player2]) with hstB
  have hsA : stA.Sound r.toConstants := hs₂.actAll _
  have hsB : stB.Sound r.toConstants := hsA.actAll _
  have hA := hs₂.assaulted .player1
  have hB := hsA.assaulted .player2
  have hl : (State.roster r.toConstants [.player1, .player2]).Nodup :=
    State.nodup_roster _ (by decide)
  have hafter : t.after =
      stB.finishAll r.toConstants (State.roster r.toConstants [.player1, .player2]) := by
    have hroster : State.roster r.toConstants [.player1, .player2] =
        State.roster r.toConstants [.player1] ++ State.roster r.toConstants [.player2] := by
      simp [State.roster]
    have hact : st₂.actAll r.toConstants (State.roster r.toConstants [.player1, .player2]) =
        stB := by
      rw [hstB, hstA, State.actAll, State.actAll, State.actAll, hroster, List.foldl_append]
    rw [← Except.ok.inj (hrun.symm.trans hupdate), ← hact]
    rfl
  have hfinish : ∀ x, (stB.soldiers p)[i]? = some x →
      (t.after.soldiers p)[i]? = some (x.finish r.toConstants) := by
    intro x hx
    have hmem : (p, i) ∈ State.roster r.toConstants [.player1, .player2] :=
      State.mem_roster.mpr ⟨PlayerId.mem_all p, hsB.slot_lt hx⟩
    rw [hafter, State.getElem?_finishAll _ hl, hx, Option.map_some, if_pos hmem]
  have hfought : stB.Fought t.after := by
    rw [hafter, State.finishAll_eq _ hl]
    exact ⟨fun q => ⟨fun v => v, fun v _ => Tower.Worn.refl v, rfl⟩, rfl, rfl⟩
  have hsound := h.sound.soldier p i u hu
  have hi := h.sound.slot_lt hu
  cases p with
  | player1 =>
    -- the soldiers of player 2 come later, and find this one as its update has left it
    have hu' : (st₂.soldiers .player1)[i]? = some u := hsoldiers ▸ hu
    obtain ⟨hmid, hwaits, hnext⟩ := hs₂.slot_roster hu'
    set mid := st₂.facing r.toConstants .player1 i with hmidEq
    set w := u.next r.toConstants (mid.targetOf .player1 i) with hw
    have hzero : u.damage 0 = u := Soldier.damage_zero hsound.damage_le
    have hbody := Soldier.sameBody_asFaced_next r.toConstants hsound.playerId_eq
      (mid.targetOf .player1 i)
    refine ⟨mid, 0, stA.onslaught .player2 i w, hmid, by rw [hzero]; exact hwaits,
      ((hs₂.fought_facing hi).trans (hsA.fought_actAll _)).trans hfought, ?_,
      ⟨le_refl _, hsA.onslaught_nonneg ..⟩, ?_⟩
    · rw [hzero]
      exact hfinish _ (hB.damaged hsA hnext)
    · rw [zero_add, show stA.onslaught .player2 i w = st₂.onslaught .player2 i w from
        hA.onslaught_opponent hs₂ hsA i w, State.onslaught, State.onslaught, hsoldiers,
        State.blow_congr hbody.position]
      rfl
  | player2 =>
    -- the soldiers of player 1 come first, and this one is hit before its update
    have hu' : (stA.soldiers .player2)[i]? =
        some (u.damage (st₂.onslaught .player1 i u)) := hA.damaged hs₂ (hsoldiers ▸ hu)
    obtain ⟨hmid, hwaits, hnext⟩ := hsA.slot_roster hu'
    refine ⟨stA.facing r.toConstants .player2 i, st₂.onslaught .player1 i u, 0, hmid, hwaits,
      (hsA.fought_facing hi).trans hfought, ?_, ⟨hs₂.onslaught_nonneg .., le_refl _⟩, ?_⟩
    · rw [Soldier.damage_zero (hsB.soldier .player2 i _ hnext).damage_le]
      exact hfinish _ hnext
    · rw [add_zero, Soldier.asFaced, if_neg fun h' => by simp [hsound.playerId_eq] at h',
        State.onslaught, State.onslaught, hsoldiers]
      rfl

/-- **A turn of a game is a turn of each of its soldiers.** -/
theorem Turn.IsPlayed.exists_lives (ht : t.IsPlayed r) (h : t.before.Rested r)
    (hs : (t.before.soldiers p)[i]? = some s) (hrest : s.Resting r.toConstants) :
    ∃ e s', t.Lives r p i e s s' := by
  obtain ⟨hready, -⟩ := ht.ready h
  obtain ⟨input, hcommanded, hupdate⟩ := ht.carriedOut h
  obtain ⟨orders, horders, hu⟩ := h.exists_orders input.playerStates
    input.skipPlayerCommandsFlags .player1 hs
  rw [← hcommanded] at hu
  obtain ⟨mid, d, d', hslot⟩ := Turn.exists_slot hready hupdate hu
  have hplays := hrest.plays r.soldierTotalTurnsToRespawn_pos (fun o ho => (horders o ho).2)
    hslot.nonneg.1 hslot.nonneg.2 rfl hslot.sound hslot.slot
  refine ⟨_, _, hs, hslot.after, hplays,
    ⟨orders, d, fun o ho => (horders o ho).1, rfl, hu⟩, ?_, ?_⟩
  · intro u hu'
    obtain rfl := Option.some.inj (hu.symm.trans hu')
    rw [← hslot.sum]
    exact dealt_lifeEvents fun o ho => (horders o ho).1
  · intro w hw hptr
    rw [met_lifeEvents] at hptr
    exact hslot.sound.exists_targetOf hslot.fought hslot.slot hw hptr

/-- **A game is the lives of its soldiers.**  Every slot goes through turns of a soldier by
itself, from the soldier the game was built with on. -/
theorem Game.exists_life (h : Game r past st) (p : PlayerId) (hi : i < r.numSoldiers) :
    ∃ (run : ℕ → Soldier K) (e : ℕ → Soldier.TurnEvents K),
      run 0 = buildSoldier r.toConstants p (r.numSoldiers * p.index + i) ∧
      (st.soldiers p)[i]? = some (run past.length) ∧
      ∀ (k : ℕ) t, past[k]? = some t → t.Lives r p i (e k) (run k) (run (k + 1)) := by
  induction h with
  | @start st h =>
    have hstart : (st.soldiers p)[i]? =
        some (buildSoldier r.toConstants p (r.numSoldiers * p.index + i)) := by
      rw [soldiers_of_buildState h, buildSoldiers, List.getElem?_map, List.getElem?_range hi]
      rfl
    exact ⟨fun _ => buildSoldier r.toConstants p (r.numSoldiers * p.index + i),
      fun _ => lifeEvents [] 0 0 none (buildMoneyManager r.toConstants), rfl, hstart,
      fun k t ht => absurd ht (by simp)⟩
  | @turn past t hgame ht ih =>
    obtain ⟨run, e, hzero, hlast, hlives⟩ := ih
    obtain ⟨event, s', hlife⟩ := ht.exists_lives hgame.rested hlast (hgame.resting hlast)
    refine ⟨Function.update run (past.length + 1) s', Function.update e past.length event, ?_, ?_,
      ?_⟩
    · rw [Function.update_of_ne (by omega), hzero]
    · rw [List.length_append, List.length_singleton, Function.update_self]
      exact hlife.after
    · intro k t' ht'
      rcases Nat.lt_trichotomy k past.length with hk | rfl | hk
      · rw [List.getElem?_append_left hk] at ht'
        rw [Function.update_of_ne hk.ne, Function.update_of_ne (by omega),
          Function.update_of_ne (by omega)]
        exact hlives k t' ht'
      · rw [List.getElem?_concat_length] at ht'
        obtain rfl := Option.some.inj ht'
        rw [Function.update_self, Function.update_self, Function.update_of_ne (by omega)]
        exact hlife
      · have hnone : (past ++ [t])[k]? = none :=
          List.getElem?_eq_none (by rw [List.length_append, List.length_singleton]; omega)
        rw [hnone] at ht'
        cases ht'

omit [Field K] [LinearOrder K] [FloorRing K] [SquareRoot K] [IsStrictOrderedRing K] in
/-- In the small game the soldier of player 1 attacks and kills that of player 2, which is
dealt all of its hp. -/
theorem exists_life_sample : ∃ (past : List (Turn ℚ)) (st : State ℚ) (run : ℕ → Soldier ℚ)
    (e : ℕ → Soldier.TurnEvents ℚ), Game sampleRules past st ∧ past.length = 1 ∧ (run 1).hp = 0 ∧
    run 0 = buildSoldier sampleRules.toConstants .player2 1 ∧
    ∀ (k : ℕ) t, past[k]? = some t →
      t.Lives sampleRules .player2 0 (e k) (run k) (run (k + 1)) := by
  have hrun : ((play sampleRules [bothPlay _ (.attackSoldier _ 0 1) (.quiet _)]).toOption.bind
      fun st => (st.soldiers .player2)[0]?.map Soldier.hp) = some 0 := by
    decide +kernel
  obtain ⟨st, hplay, hrun⟩ := exists_of_toOption_bind hrun
  obtain ⟨s, hs, hhp⟩ := Option.map_eq_some_iff.mp hrun
  obtain ⟨past, hlength, hgame⟩ := game_of_play hplay
  obtain ⟨run, e, hzero, hlast, hlives⟩ := hgame.exists_life (i := 0) .player2 (by decide)
  rw [show past.length = 1 from hlength, hs] at hlast
  obtain rfl := Option.some.inj hlast
  exact ⟨past, st, run, e, hgame, hlength, hhp, hzero, hlives⟩

end Runs

end Simulator
