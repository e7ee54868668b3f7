import Simulator.State.SoldierRounds
import Simulator.Main.Initial

/-!
# Runs of any soldiers

A turn of the soldiers: commands and hits in any order, the updates of all soldiers, more
hits, and the late updates of all soldiers.  A command is given to a living soldier, and
an attack names an actor of the opponent.  However many turns there are and whatever
happens in them, at the end of each of them every soldier is at rest.

## Soldiers of any making

These are more runs than games have.  A soldier may be built with any numbers and may be hit by
anything at any time, as a test of the class `Soldier` may do it; what a game would never do is
covered as long as the callers keep to two rules, which the simulator's own callers keep to:
commands are for the living, and an attack is on an actor of the opponent that exists.

What has been proved of single rounds under these rules (`State.Steady`) makes up a turn:
`Steady.call` for the commands and hits before the updates, the two loops, and `Steady.hits` in
between.  A turn may end early, since the reward for a kill can be refused when the tables have no
entry for it, and then nothing is said of it.  If there is a reward for every actor, it does not
end early, and `atRest_of_turns` says so too: after any number of turns, the updates of the next
one return.
-/

namespace Simulator

open Foundation Relation

variable {K : Type}

namespace State

/-! ## Calls between the updates -/

/-- A call of `Damage` on an actor. -/
inductive Hit (st : State K) : State K → Prop
  | damage {ptr : ActorPtr} {a : Actor K} {damageAmount : ℤ} (ha : st.deref ptr = some a)
      (hd : 0 ≤ damageAmount) : Hit st (st.setActor ptr (a.damage damageAmount))

/-- A command, or a call of `Damage`. -/
inductive Call (st : State K) : State K → Prop
  | move {p : PlayerId} {i : ℕ} {s : Soldier K} (hs : (st.soldiers p)[i]? = some s)
      (halive : s.hp ≠ 0) (destination : Vector K) :
      Call st (st.setSoldier p i (s.move destination))
  | attack {p : PlayerId} {i : ℕ} {s : Soldier K} {ptr : ActorPtr} {a : Actor K}
      (hs : (st.soldiers p)[i]? = some s) (halive : s.hp ≠ 0)
      (hplayer : ptr.playerId = p.opponent) (ha : st.deref ptr = some a) :
      Call st (st.setSoldier p i (s.attack ptr))
  | hit {st' : State K} (h : Hit st st') : Call st st'

variable {c : Constants K} {st st' : State K}

theorem Steady.setSoldier (h : st.Steady c) {p : PlayerId} {i : ℕ} {s s' : Soldier K}
    (hs : (st.soldiers p)[i]? = some s) (horderly : s'.Orderly c)
    (hbuild : s'.maxHp = s.maxHp ∧ s'.attackDamage = s.attackDamage)
    (hthere : st.TargetThere p s') : (st.setSoldier p i s').Steady c := by
  have hi : i < (st.soldiers p).length := (List.getElem?_eq_some_iff.mp hs).1
  have hderef : ∀ ptr a, st.deref ptr = some a →
      ∃ a', (st.setSoldier p i s').deref ptr = some a' := by
    intro ptr a ha
    rw [deref_setSoldier hi]
    split
    · exact ⟨_, rfl⟩
    · exact ⟨a, ha⟩
  refine steady_of_soldiers hderef ?_
  intro q k u hu
  rw [slot_iff_deref, deref_setSoldier hi] at hu
  split at hu
  · rename_i hself
    obtain ⟨rfl, rfl⟩ := ActorPtr.soldier.inj hself
    obtain rfl := Actor.soldier.inj (Option.some.inj hu)
    rw [hbuild.1, hbuild.2]
    exact ⟨horderly, h.build q k s hs, hthere⟩
  · exact h.soldier (slot_iff_deref.mpr hu)

theorem Hit.slots (h : Hit st st') {q : PlayerId} {k : ℕ} {u' : Soldier K}
    (hu' : (st'.soldiers q)[k]? = some u') : ∃ u, (st.soldiers q)[k]? = some u ∧
      (u' = u ∨ ∃ damageAmount, 0 ≤ damageAmount ∧ u' = u.damage damageAmount) := by
  obtain @⟨ptr, a, damageAmount, ha, hd⟩ := h
  rw [slot_iff_deref, deref_setActor ha (a.sameActor_damage damageAmount)] at hu'
  split at hu'
  · rename_i hself
    subst hself
    obtain ⟨u, hu, rfl⟩ := Option.map_eq_some_iff.mp ha
    exact ⟨u, hu, .inr ⟨damageAmount, hd, (Actor.soldier.inj (Option.some.inj hu')).symm⟩⟩
  · exact ⟨u', slot_iff_deref.mpr hu', .inl rfl⟩

theorem Hit.exists_deref (h : Hit st st') {ptr : ActorPtr} {a : Actor K}
    (ha : st.deref ptr = some a) : ∃ a', st'.deref ptr = some a' := by
  obtain @⟨ptr₀, a₀, damageAmount, ha₀, -⟩ := h
  rw [deref_setActor ha₀ (a₀.sameActor_damage damageAmount)]
  split
  · exact ⟨_, rfl⟩
  · exact ⟨a, ha⟩

theorem Steady.hit (h : st.Steady c) (hhit : Hit st st') : st'.Steady c := by
  refine steady_of_soldiers (fun _ _ => hhit.exists_deref) ?_
  intro q k u' hu'
  obtain ⟨u, hu, rfl | ⟨d, hd, rfl⟩⟩ := hhit.slots hu'
  · exact h.soldier hu
  · exact h.soldier_damage hu hd

/-- **A call keeps the state steady.** -/
theorem Steady.call (h : st.Steady c) (hcall : Call st st') : st'.Steady c := by
  cases hcall with
  | @move p i s hs halive destination =>
    exact h.setSoldier hs ((h.orderly p i s hs).moveOrder halive destination) ⟨rfl, rfl⟩ nofun
  | @attack p i s ptr a hs halive hplayer ha =>
    refine h.setSoldier hs ((h.orderly p i s hs).attackOrder halive ptr) ⟨rfl, rfl⟩ ?_
    rintro ptr' ⟨⟩
    exact ⟨hplayer, a, ha⟩
  | hit hhit => exact h.hit hhit

theorem Steady.calls (h : st.Steady c) (hcalls : ReflTransGen Call st st') : st'.Steady c := by
  induction hcalls with
  | refl => exact h
  | tail _ hcall ih => exact ih.call hcall

theorem Steady.hits (h : st.Steady c) (hsettled : st.AllAt Soldier.Settled)
    (hhits : ReflTransGen Hit st st') : st'.Steady c ∧ st'.AllAt Soldier.Settled := by
  induction hhits with
  | refl => exact ⟨h, hsettled⟩
  | tail _ hhit ih =>
    refine ⟨ih.1.hit hhit, ?_⟩
    intro q k u' hu'
    obtain ⟨u, hu, rfl | ⟨d, -, rfl⟩⟩ := hhit.slots hu'
    · exact ih.2 q k u' hu
    · exact (ih.2 q k u hu).damage d

/-! ## Turns -/

variable [Field K] [LinearOrder K] [SquareRoot K]

/-- A turn of the soldiers. -/
inductive Turn (c : Constants K) (st : State K) : State K → Prop
  | intro {st₁ st₂ st₃ st' : State K} (hcalls : ReflTransGen Call st st₁)
      (hupdate : updateSoldiers c st₁ = .ok st₂) (hhits : ReflTransGen Hit st₂ st₃)
      (hlateUpdate : lateUpdateSoldiers c st₃ = .ok st') : Turn c st st'

theorem Steady.turn (h : st.Steady c) (hT : 1 ≤ c.soldierTotalTurnsToRespawn)
    (hturn : Turn c st st') : st'.Steady c ∧ st'.AllAt Soldier.AtRest := by
  obtain ⟨hcalls, hupdate, hhits, hlateUpdate⟩ := hturn
  obtain ⟨hsteady₂, hsettled₂⟩ := (h.calls hcalls).updateSoldiers hupdate
  obtain ⟨hsteady₃, hsettled₃⟩ := hsteady₂.hits hsettled₂ hhits
  obtain ⟨st'', hrun, hsteady, hrest, -⟩ := hsteady₃.lateUpdateSoldiers hT hsettled₃
  obtain rfl := Except.ok.inj (hrun.symm.trans hlateUpdate)
  exact ⟨hsteady, hrest⟩

omit [Field K] [LinearOrder K] [SquareRoot K] in
theorem steady_of_fresh (h : st.AllAt Soldier.Fresh) : st.Steady c where
  orderly := fun p i s hs => (h p i s hs).orderly
  build := fun p i s hs =>
    ⟨(h p i s hs).hp_pos.trans_le (h p i s hs).hp_le, (h p i s hs).attackDamage_nonneg⟩
  targetThere := fun p i s hs ptr hptr => by simp [(h p i s hs).attackTarget_eq] at hptr

theorem steady_of_turns (hT : 1 ≤ c.soldierTotalTurnsToRespawn) (hfresh : st.AllAt Soldier.Fresh)
    (hrun : ReflTransGen (Turn c) st st') : st'.Steady c ∧ st'.AllAt Soldier.AtRest := by
  induction hrun with
  | refl => exact ⟨steady_of_fresh hfresh, fun p i s hs => (hfresh p i s hs).atRest⟩
  | tail _ hturn ih => exact ih.1.turn hT hturn

/-- **At the end of every turn every soldier is at rest**, and the updates of the next turn
will find the targets they look for: they return, whatever the calls before them, if there
is a reward for every actor, and so do the late updates, whatever the hits before them. -/
theorem atRest_of_turns (hT : 1 ≤ c.soldierTotalTurnsToRespawn) (hfresh : st.AllAt Soldier.Fresh)
    (hrun : ReflTransGen (Turn c) st st') :
    st'.AllAt Soldier.AtRest ∧ ∀ st₁, ReflTransGen Call st' st₁ →
      (st₁.Pays → ∃ st₂, updateSoldiers c st₁ = .ok st₂) ∧
      ∀ st₂ st₃, updateSoldiers c st₁ = .ok st₂ → ReflTransGen Hit st₂ st₃ →
        ∃ st₄, lateUpdateSoldiers c st₃ = .ok st₄ := by
  obtain ⟨hsteady, hrest⟩ := steady_of_turns hT hfresh hrun
  refine ⟨hrest, fun st₁ hcalls => ⟨?_, ?_⟩⟩
  · intro hpays
    obtain ⟨st₂, hupdate, -⟩ := (hsteady.calls hcalls).exists_updateSoldiers hpays
    exact ⟨st₂, hupdate⟩
  · intro st₂ st₃ hupdate hhits
    obtain ⟨hsteady₂, hsettled₂⟩ := (hsteady.calls hcalls).updateSoldiers hupdate
    obtain ⟨hsteady₃, hsettled₃⟩ := hsteady₂.hits hsettled₂ hhits
    obtain ⟨st₄, hlateUpdate, -⟩ := hsteady₃.lateUpdateSoldiers hT hsettled₃
    exact ⟨st₄, hlateUpdate⟩

omit [LinearOrder K] [SquareRoot K] in
theorem fresh_of_buildState [LinearOrder K] [FloorRing K] (r : Ruleset K)
    (h : buildState r.toConstants = .ok st) : st.AllAt Soldier.Fresh := by
  intro p i s hs
  rw [soldiers_of_buildState h] at hs
  obtain rfl := getElem?_buildSoldiers hs
  exact ⟨r.soldierMaxHp_pos, le_refl _, r.soldierAttackDamage_nonneg, rfl, rfl, rfl, rfl, rfl⟩

omit [Field K] [LinearOrder K] [SquareRoot K] in
/-- A turn of the small game in which player 1's soldier attacks and kills. -/
theorem atRest_of_turns_sample : ∃ st st' : State ℚ, buildState sampleRules.toConstants = .ok st ∧
    Turn sampleRules.toConstants st st' ∧ st'.AllAt Soldier.AtRest ∧
    (∃ s, (st'.soldiers .player2)[0]? = some s ∧ s.hp = 0) ∧
    ∀ st₁, ReflTransGen Call st' st₁ →
      (st₁.Pays → ∃ st₂, updateSoldiers sampleRules.toConstants st₁ = .ok st₂) ∧
      ∀ st₂ st₃, updateSoldiers sampleRules.toConstants st₁ = .ok st₂ →
        ReflTransGen Hit st₂ st₃ →
        ∃ st₄, lateUpdateSoldiers sampleRules.toConstants st₃ = .ok st₄ := by
  have hrun : ((buildState sampleRules.toConstants).toOption.bind fun st : State ℚ =>
      (st.soldiers .player1)[0]?.bind fun s => (st.soldiers .player2)[0]?.bind fun u =>
      (updateSoldiers sampleRules.toConstants
        (st.setSoldier .player1 0 (s.attack (.soldier .player2 0)))).toOption.bind fun st₂ =>
      (lateUpdateSoldiers sampleRules.toConstants st₂).toOption.bind fun st' =>
      (st'.soldiers .player2)[0]?.bind fun u' => some (s.hp, u'.hp)) = some (1, 0) := by
    decide +kernel
  obtain ⟨st, h₀, hrun⟩ := exists_of_toOption_bind hrun
  obtain ⟨s, hs, hrun⟩ := Option.bind_eq_some_iff.mp hrun
  obtain ⟨u, hu, hrun⟩ := Option.bind_eq_some_iff.mp hrun
  obtain ⟨st₂, hupdate, hrun⟩ := exists_of_toOption_bind hrun
  obtain ⟨st', hlateUpdate, hrun⟩ := exists_of_toOption_bind hrun
  obtain ⟨u', hu', hrun⟩ := Option.bind_eq_some_iff.mp hrun
  obtain ⟨hhp, hhp'⟩ := Prod.mk.inj (Option.some.inj hrun)
  have hcall : Call st (st.setSoldier .player1 0 (s.attack (.soldier .player2 0))) :=
    .attack hs (by rw [hhp]; decide) rfl (slot_iff_deref.mp hu)
  have hturn : Turn sampleRules.toConstants st st' :=
    .intro (.single hcall) hupdate .refl hlateUpdate
  obtain ⟨hrest, hreturns⟩ :=
    atRest_of_turns (by decide) (fresh_of_buildState sampleRules h₀) (.single hturn)
  exact ⟨st, st', h₀, hturn, hrest, ⟨u', hu', hhp'⟩, hreturns⟩

end State

end Simulator
