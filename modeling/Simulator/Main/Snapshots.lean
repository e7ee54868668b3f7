import Simulator.Logger.TowerLog
import Simulator.Main.Containment
import Simulator.Main.TowerDeaths

/-!
# The towers of a game

The logger sends what never changes of a tower only once, and tells by the ids which
towers are new and which are gone.  That is good for a game: a tower stays where it was
built, and the ids of those that are built go up (`Game.snapshots`).

What it writes are `int32` fields.  `Ruleset.FitsLog` is what the constants have to
satisfy for the values to fit; the ids have to fit too, and they only go up.

## From frames to a game

The logger has its own notion of a row of frames that it can be told (`Logger.Snapshots`), which
mentions no turns and no commands.  What a game has to do with it is proved here.  Of a turn one
has to know that every tower which is listed after it was listed before, in the same place, with
the same owner and the same mark, or has an id that no tower before it has had
(`Ready.samePlot_update`).  Then a row of frames can be extended by one (`Snapshots.concat`), and
along the turns of a game this gives all of them.

An id that is given once is not given again, so that a tower which has been reported as gone does
not come back.  This needs the whole past of a game, and `Registered` keeps what is needed of it:
no id in the past is above the counter.
-/

namespace Simulator

open Foundation

variable {K : Type}

/-! ## What never changes of a tower -/

/-- What does not change about a tower. -/
structure Tower.SamePlot (t u : Tower K) : Prop where
  playerId : t.playerId = u.playerId
  position : t.position = u.position
  isBase : t.isBase = u.isBase

theorem Tower.SamePlot.refl (t : Tower K) : t.SamePlot t := ⟨rfl, rfl, rfl⟩

theorem Tower.SamePlot.symm {t u : Tower K} (h : t.SamePlot u) : u.SamePlot t :=
  ⟨h.playerId.symm, h.position.symm, h.isBase.symm⟩

theorem Tower.SamePlot.trans {t u v : Tower K} (h : t.SamePlot u) (h' : u.SamePlot v) :
    t.SamePlot v :=
  ⟨h.playerId.trans h'.playerId, h.position.trans h'.position, h.isBase.trans h'.isBase⟩

theorem Tower.Worn.samePlot {t u : Tower K} (h : t.Worn u) : t.SamePlot u :=
  ⟨h.playerId.symm, h.position.symm, h.isBase.symm⟩

variable [Field K] [LinearOrder K] [FloorRing K]

omit [Field K] [LinearOrder K] [FloorRing K] in
theorem samePlot_processed (c : Constants K) (m : TowerManager K) (t : Tower K) :
    t.SamePlot (m.processed c t) :=
  ⟨(TowerManager.playerId_processed ..).symm, (TowerManager.position_processed ..).symm,
    (TowerManager.isBase_processed ..).symm⟩

namespace State

variable [SquareRoot K] [IsStrictOrderedRing K] {r : Ruleset K} {st st' : State K}

/-- **The towers after an update** are those of before, in their places, or have new ids. -/
theorem Ready.samePlot_update (h : st.Ready r) (hupdate : State.update r.toConstants st = .ok st')
    {p : PlayerId} {t' : Tower K} (ht' : t' ∈ st'.towers p) :
    (∃ t ∈ st.towers p, t.id = t'.id ∧ t.SamePlot t') ∨ st.actorIdIncrement ≤ t'.id := by
  obtain ⟨st₁, st₂, hu₁, hu₂, hfought⟩ := h.exists_fought hupdate
  obtain ⟨g, hg, hm⟩ := hfought.manager p
  rw [State.towers, hm, TowerManager.mapTowers] at ht'
  obtain ⟨u, hu, rfl⟩ := List.mem_map.mp ht'
  have hworn := hg u (TowerManager.mem_allocatedTowers_of_mem hu)
  rw [hworn.id]
  -- the towers of player 2 are updated when those of player 1 have got their ids
  have hworked : (∃ t ∈ st.towers p, t.id = u.id ∧ t.SamePlot u) ∨ st.actorIdIncrement ≤ u.id := by
    cases p with
    | player1 =>
      rw [hu₂.other .player1 (by decide)] at hu
      rcases hu₁.mem_towers hu with ⟨t, ht, rfl, -⟩ | hle
      · exact .inl ⟨t, ht, (TowerManager.id_processed ..).symm, samePlot_processed ..⟩
      · exact .inr hle
    | player2 =>
      rcases hu₂.mem_towers hu with ⟨t, ht, rfl, -⟩ | hle
      · rw [State.towers, hu₁.other .player2 (by decide)] at ht
        exact .inl ⟨t, ht, (TowerManager.id_processed ..).symm, samePlot_processed ..⟩
      · have hincrement := hu₁.actorIdIncrement
        exact .inr (by omega)
  refine hworked.imp_left ?_
  rintro ⟨t, ht, hid, hplot⟩
  exact ⟨t, ht, hid, hplot.trans hworn.samePlot⟩

theorem Ready.sites_update (h : st.Ready r) (hupdate : State.update r.toConstants st = .ok st')
    (p : PlayerId) : (st'.sites p).Sublist (st.sites p ++
      (st.towerManagers p).towersToBuildOffsets.map (Vector.center st.map.elementSize)) := by
  obtain ⟨st₁, st₂, hu₁, hu₂, hfought⟩ := h.exists_fought hupdate
  rw [hfought.sites]
  cases p with
  | player1 =>
    rw [State.sites, State.towers, hu₂.other .player1 (by decide)]
    exact hu₁.sites
  | player2 =>
    have hsublist := hu₂.sites
    rw [State.sites, State.sites, State.towers, State.towers, hu₁.other .player2 (by decide),
      hu₁.elementSize] at hsublist
    exact hsublist

end State

/-! ## Towers stand in the map -/

section Sites

variable [SquareRoot K] [IsStrictOrderedRing K] {r : Ruleset K} {st : State K}
  {past : List (Turn K)}

theorem Game.inside_sites (hbases : ∀ p, r.Inside (r.baseTowerPositions p)) (h : Game r past st) :
    ∀ p, ∀ v ∈ st.sites p, r.Inside v := by
  induction h with
  | start h =>
    intro p v hv
    obtain ⟨st, hst, -, htowers, -⟩ := exists_buildState r
    obtain rfl := Except.ok.inj (hst.symm.trans h)
    rw [State.sites, htowers, List.map_singleton, List.mem_singleton] at hv
    rw [hv]
    exact hbases p
  | @turn past t hgame ht ih =>
    have hrested := hgame.rested
    have hready := (ht.ready hrested).1
    obtain ⟨input, hstate, hupdate⟩ := ht.carriedOut hrested
    intro p v hv
    rcases List.mem_append.mp ((hready.sites_update hupdate p).subset hv) with hv | hv
    · rw [hstate, State.sites, (State.sameButOrders_carryOutAll ..).towers] at hv
      exact ih p v hv
    · obtain ⟨offset, hoffset, rfl⟩ := List.mem_map.mp hv
      have hplanned : t.commanded.Planned p := by
        rw [hstate]
        exact StateSyncer.planned_carryOutAll hrested _ _ _ p
      rw [hready.sound.elementSize]
      exact hplanned.buildsInside hready.sound offset hoffset

end Sites

/-! ## What the fields hold -/

/-- The values of all towers of a game fit the fields of their messages. -/
structure Ruleset.FitsLog (r : Ruleset K) : Prop where
  towerHps : ∀ hp ∈ r.towerHps, hp < 2 ^ 31
  towerLevels : r.towerBuildCosts.length < 2 ^ 31
  soldierMaxHp : r.soldierMaxHp < 2 ^ 31
  map : r.mapSize * r.mapElementSize ≤ 2 ^ 31
  bases : ∀ p, r.Inside (r.baseTowerPositions p)

section Fits

variable {r : Ruleset K}

theorem Constants.InSide.isInt32 {c : Constants K} (hmap : c.mapSize * c.mapElementSize ≤ 2 ^ 31)
    {a : Double K} (h : c.InSide a) : IsInt32 a.toInt := by
  obtain ⟨x, ⟨hnonneg, hlt⟩, rfl⟩ := h.exists_num
  rw [Int.cast_zero] at hnonneg
  have hfloor : (0 : ℤ) ≤ ⌊x⌋ := Int.floor_nonneg.mpr hnonneg
  have hbound : ⌊x⌋ < c.mapSize * c.mapElementSize := Int.floor_lt.mpr hlt
  simp only [Double.toInt, if_neg (not_lt.mpr hnonneg)]
  exact ⟨by omega, by omega⟩

theorem State.Sound.fitsLog {st : State K} (h : st.Sound r.toConstants) (hr : r.FitsLog)
    (hsites : ∀ p, ∀ v ∈ st.sites p, r.Inside v) (hids : st.actorIdIncrement ≤ 2 ^ 31)
    {p : PlayerId} {t : Tower K} (ht : t ∈ st.towers p) : t.FitsLog := by
  have hmem := TowerManager.mem_allocatedTowers_of_mem ht
  have htower := (h.manager p).tower t hmem
  have hid := (h.manager p).id_ge t hmem
  have hlt := (h.manager p).id_lt t hmem
  have hmaxHp := hr.towerHps _ (mem_of_vectorAt htower.maxHp_eq)
  have hlevels := hr.towerLevels
  have hlevel := htower.level_le
  have hpos := htower.level_pos
  have hhp := htower.hp_le
  have hnonneg := htower.hp_nonneg
  have hinside := hsites p t.position (List.mem_map_of_mem ht)
  exact ⟨⟨by omega, by omega⟩, ⟨by omega, by omega⟩, ⟨by omega, by omega⟩,
    hinside.1.isInt32 hr.map, hinside.2.isInt32 hr.map⟩

theorem State.Sound.targetsAllocated {c : Constants K} {st : State K} (h : st.Sound c) :
    Logger.TargetsAllocated st := by
  intro p s hs ptr hptr
  obtain ⟨i, hi⟩ := List.mem_iff_getElem?.mp hs
  exact h.deref_of_designates (h.target p i s ptr hi hptr)

theorem State.Sound.tower_unique {c : Constants K} {st : State K} (h : st.Sound c) {p p' : PlayerId}
    {t t' : Tower K} (ht : t ∈ st.towers p) (ht' : t' ∈ st.towers p') (hid : t.id = t'.id) :
    t = t' := by
  have hmem := TowerManager.mem_allocatedTowers_of_mem ht
  have hmem' := TowerManager.mem_allocatedTowers_of_mem ht'
  by_cases hp : p' = p
  · subst hp
    exact (h.manager p').eq_of_id hmem hmem' hid
  · rw [PlayerId.eq_opponent_of_ne hp] at hmem'
    exact absurd hid (h.disjoint p t hmem t' hmem')

theorem State.Sound.owned {c : Constants K} {st : State K} (h : st.Sound c) :
    ∀ p, ∀ t ∈ st.towers p, t.playerId = p := fun p t ht =>
  ((h.manager p).tower t (TowerManager.mem_allocatedTowers_of_mem ht)).playerId_eq

end Fits

/-! ## The frames of a game -/

/-- The states between the turns of a game that starts from `st₀`. -/
def statesOf (st₀ : State K) (past : List (Turn K)) : List (State K) := st₀ :: past.map Turn.after

/-- **One more frame.** -/
theorem Snapshots.concat {snapshots : List (PlayerId → List (Tower K))} (h : Snapshots snapshots)
    {towers : PlayerId → List (Tower K)} (hsorted : ∀ p, (towers p).Pairwise fun t u => t.id < u.id)
    (howned : ∀ p, ∀ t ∈ towers p, t.playerId = p) (hfits : ∀ p, ∀ t ∈ towers p, t.FitsLog)
    (hfresh : ∀ before ∈ snapshots.getLast?, ∀ p, ∀ t ∈ towers p, (∃ u ∈ before p, u.id = t.id) ∨
      ∀ towers' ∈ snapshots, ∀ u ∈ towers' p, u.id < t.id)
    (hfixed : ∀ towers' ∈ snapshots ++ [towers], ∀ p p', ∀ t ∈ towers p, ∀ t' ∈ towers' p',
      t.id = t'.id → t.SamePlot t') : Snapshots (snapshots ++ [towers]) where
  sorted := by
    intro towers' htowers'
    rcases List.mem_append.mp htowers' with hold | hnew
    · exact h.sorted towers' hold
    · exact List.mem_singleton.mp hnew ▸ hsorted
  owned := by
    intro towers' htowers'
    rcases List.mem_append.mp htowers' with hold | hnew
    · exact h.owned towers' hold
    · exact List.mem_singleton.mp hnew ▸ howned
  fresh := by
    intro n before after hbefore hafter p t ht
    have hlength := (List.getElem?_eq_some_iff.mp hafter).1
    rw [List.length_append, List.length_singleton] at hlength
    rw [List.getElem?_append_left (by omega)] at hbefore
    rw [List.take_append_of_le_length (by omega)]
    by_cases hn : n + 1 < snapshots.length
    · rw [List.getElem?_append_left hn] at hafter
      exact h.fresh n before after hbefore hafter p t ht
    · -- the last frame is the one that is added
      have hlast : n + 1 = snapshots.length := by omega
      rw [hlast, List.getElem?_concat_length] at hafter
      obtain rfl := Option.some.inj hafter
      rw [hlast, List.take_length]
      refine hfresh before ?_ p t ht
      rw [List.getLast?_eq_getElem?, ← hlast]
      exact hbefore
  fixed := by
    intro towers₁ h₁ towers₂ h₂ p p' t ht t' ht' hid
    have hplot : t.SamePlot t' := by
      rcases List.mem_append.mp h₁ with hold₁ | hnew₁
      · rcases List.mem_append.mp h₂ with hold₂ | hnew₂
        · obtain ⟨hplayer, hposition, hbase⟩ := h.fixed towers₁ hold₁ towers₂ hold₂ p p' t ht t' ht'
            hid
          exact ⟨hplayer, hposition, hbase⟩
        · obtain rfl := List.mem_singleton.mp hnew₂
          exact (hfixed towers₁ h₁ p' p t' ht' t ht hid.symm).symm
      · obtain rfl := List.mem_singleton.mp hnew₁
        exact hfixed towers₂ h₂ p p' t ht t' ht' hid
    exact ⟨hplot.playerId, hplot.position, hplot.isBase⟩
  fits := by
    intro towers' htowers'
    rcases List.mem_append.mp htowers' with hold | hnew
    · exact h.fits towers' hold
    · exact List.mem_singleton.mp hnew ▸ hfits

section Games

variable [SquareRoot K] [IsStrictOrderedRing K] {r : Ruleset K} {st st₀ : State K}
  {past : List (Turn K)}

/-- What is kept of the frames of a game, while it is played. -/
structure Registered (snapshots : List (PlayerId → List (Tower K))) (st : State K) : Prop where
  frames : Snapshots snapshots
  last : snapshots.getLast? = some st.towers
  id_lt : ∀ towers ∈ snapshots, ∀ p, ∀ t ∈ towers p, t.id < st.actorIdIncrement

/-- **A turn** registers the towers it leaves. -/
theorem Registered.turn {snapshots : List (PlayerId → List (Tower K))} {t : Turn K}
    (h : Registered snapshots t.before) (hr : r.FitsLog) (hgame : Game r past t.before)
    (ht : t.IsPlayed r) (hids : t.after.actorIdIncrement ≤ 2 ^ 31) :
    Registered (snapshots ++ [t.after.towers]) t.after := by
  obtain ⟨hsame, hready, hrested, hupdate⟩ := ht.commands hgame.rested
  have hsound := hrested.sound
  have hle := hready.actorIdIncrement_le hupdate
  rw [hsame.actorIdIncrement] at hle
  have hupdated : ∀ p, ∀ w ∈ t.after.towers p, (∃ u ∈ t.before.towers p, u.id = w.id ∧
      u.SamePlot w) ∨ t.before.actorIdIncrement ≤ w.id := fun p w hw => by
    rw [← hsame.towers, ← hsame.actorIdIncrement]
    exact hready.samePlot_update hupdate hw
  refine ⟨h.frames.concat (fun p => (hsound.manager p).sorted) hsound.owned
    (fun p w hw => hsound.fitsLog hr ((hgame.turn ht).inside_sites hr.bases) hids hw)
    (fun before hlast p w hw => ?_) (fun towers' htowers' p p' w hw w' hw' hid => ?_),
    List.getLast?_concat, fun towers htowers p w hw => ?_⟩
  · obtain rfl := Option.some.inj (h.last.symm.trans hlast)
    rcases hupdated p w hw with ⟨u, hu, huid, -⟩ | hnew
    · exact .inl ⟨u, hu, huid⟩
    · exact .inr fun towers htowers u hu => (h.id_lt towers htowers p u hu).trans_le hnew
  · rcases List.mem_append.mp htowers' with hold | hnew
    · rcases hupdated p w hw with ⟨u, hu, huid, hplot⟩ | hnew
      · obtain ⟨hplayer, hposition, hbase⟩ := h.frames.fixed _ (List.mem_of_getLast? h.last) towers'
          hold p p' u hu w' hw' (huid.trans hid)
        exact hplot.symm.trans ⟨hplayer, hposition, hbase⟩
      · have hlt := h.id_lt towers' hold p' w' hw'
        omega
    · obtain rfl := List.mem_singleton.mp hnew
      exact hsound.tower_unique hw hw' hid ▸ .refl w
  · rcases List.mem_append.mp htowers with hold | hnew
    · exact (h.id_lt towers hold p w hw).trans_le hle
    · obtain rfl := List.mem_singleton.mp hnew
      exact (hsound.manager p).id_lt w (TowerManager.mem_allocatedTowers_of_mem hw)

theorem Game.registered (hr : r.FitsLog) (h : Game r past st)
    (hst₀ : buildState r.toConstants = .ok st₀) (hids : st.actorIdIncrement ≤ 2 ^ 31) :
    Registered ((statesOf st₀ past).map State.towers) st := by
  induction h with
  | start hst =>
    obtain rfl := Except.ok.inj (hst.symm.trans hst₀)
    have hgame : Game r [] _ := .start hst
    have hsound := hgame.rested.sound
    have hnil : Snapshots ([] : List (PlayerId → List (Tower K))) :=
      ⟨nofun, nofun, nofun, nofun, nofun⟩
    refine ⟨hnil.concat (fun p => (hsound.manager p).sorted) hsound.owned
      (fun p w hw => hsound.fitsLog hr (hgame.inside_sites hr.bases) hids hw) nofun ?_, rfl, ?_⟩
    · intro towers' htowers' p p' w hw w' hw' hid
      obtain rfl := List.mem_singleton.mp htowers'
      exact hsound.tower_unique hw hw' hid ▸ .refl w
    · intro towers htowers p w hw
      obtain rfl := List.mem_singleton.mp htowers
      exact (hsound.manager p).id_lt w (TowerManager.mem_allocatedTowers_of_mem hw)
  | @turn past t hgame ht ih =>
    obtain ⟨hsame, hready, -, hupdate⟩ := ht.commands hgame.rested
    have hle := hready.actorIdIncrement_le hupdate
    rw [hsame.actorIdIncrement] at hle
    have hstates : (statesOf st₀ (past ++ [t])).map State.towers =
        (statesOf st₀ past).map State.towers ++ [t.after.towers] := by
      simp only [statesOf, List.map_append, List.map_cons, List.map_nil, List.cons_append]
    rw [hstates]
    exact (ih (hle.trans hids)).turn hr hgame ht hids

/-- **The frames of a game** are as the logger needs them. -/
theorem Game.snapshots (hr : r.FitsLog) (h : Game r past st)
    (hst₀ : buildState r.toConstants = .ok st₀) (hids : st.actorIdIncrement ≤ 2 ^ 31) :
    Snapshots ((statesOf st₀ past).map State.towers) :=
  (h.registered hr hst₀ hids).frames

end Games

end Simulator
