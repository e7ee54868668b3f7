import Simulator.Foundation.Loops
import Simulator.Foundation.Mirror
import Simulator.Logger.Logger
import Simulator.Main.Game

/-!
# The tower log is a lossless diff

The reader's table mirrors the tower logs of the logger at every moment: each message
changes the table under the id of the tower as the logger changes its own log
(`Mirrored.destroy`, `Mirrored.change`, `Mirrored.new`).  This does not depend on the
order of the ids.  What does is that the log is the tower list in the end:
`Scanning` is the invariant of the three loops, with the part of the log that has not
been looked at yet.

`Snapshots` is what is asked of the tower lists of successive frames.

## What the diff relies on

The loops run through two lists side by side and compare ids, so both lists have to be sorted by
ids, and this has to be so from frame to frame.  An entry with an id that is not among the towers
is taken for a tower that was destroyed, so an id must not come back for another tower.  A tower
that is known is sent with its hp and its level only, so what else there is about a tower must not
change.  And the reader keeps one table for both players, so no two towers of theirs may have one
id.  These are the conditions of `Snapshots`.

## The invariant of the loops

`Scanning` says of a moment in the loops that the entries before the log's pointer are those of
the towers before the other pointer, and that the rest of the log is what it was.  A round
destroys an entry, passes an entry with its tower, or adds one (`Scanning.destroy`,
`Scanning.pass`).  That a destroyed entry is removed from the log while the loop goes on is why
the two pointers always stand at the same place.
-/

namespace Simulator

open Foundation

variable {K : Type}

section Towers

variable [Field K] [LinearOrder K] [FloorRing K]

/-- The values of the tower fit the fields of its message. -/
structure Tower.FitsLog (t : Tower K) : Prop where
  id : IsInt32 t.id
  hp : IsInt32 t.hp
  towerLevel : IsInt32 t.towerLevel
  x : IsInt32 t.position.x.toInt
  y : IsInt32 t.position.y.toInt

/-- The view is that of the tower.  Its position is that of the tower where that is
whole. -/
structure Tower.ShownAs (t : Tower K) (view : TowerView) : Prop where
  id : view.id = t.id
  playerId : view.playerId = t.playerId.index
  hp : view.hp = t.hp
  towerLevel : view.towerLevel = t.towerLevel
  isBase : view.isBase = t.isBase
  x : view.x = t.position.x.toInt
  y : view.y = t.position.y.toInt
  position : ∀ x y : ℤ, t.position = Vector.ofInt x y → Vector.ofInt view.x view.y = t.position

/-- A tower has one view. -/
theorem Tower.ShownAs.unique {t : Tower K} {v w : TowerView} (hv : t.ShownAs v)
    (hw : t.ShownAs w) : v = w := by
  cases v
  cases w
  obtain ⟨rfl, rfl, rfl, rfl, rfl, rfl, rfl, -⟩ := hv
  obtain ⟨hid, hplayer, hhp, hlevel, hbase, hx, hy, -⟩ := hw
  simp only at hid hplayer hhp hlevel hbase hx hy
  simp only [hid, hplayer, hhp, hlevel, hbase, hx, hy]

/-- The tower lists of successive frames, for each frame and each player. -/
structure Snapshots (snapshots : List (PlayerId → List (Tower K))) : Prop where
  sorted : ∀ towers ∈ snapshots, ∀ p, (towers p).Pairwise fun t u => t.id < u.id
  owned : ∀ towers ∈ snapshots, ∀ p, ∀ t ∈ towers p, t.playerId = p
  /-- A new tower has an id above all that the player has had before. -/
  fresh : ∀ (n : ℕ) before after, snapshots[n]? = some before → snapshots[n + 1]? = some after →
    ∀ p, ∀ t ∈ after p, (∃ u ∈ before p, u.id = t.id) ∨
      ∀ towers ∈ snapshots.take (n + 1), ∀ u ∈ towers p, u.id < t.id
  /-- Owner, position and base flag of a tower never change. -/
  fixed : ∀ towers ∈ snapshots, ∀ towers' ∈ snapshots, ∀ p p', ∀ t ∈ towers p, ∀ t' ∈ towers' p',
    t.id = t'.id → t.playerId = t'.playerId ∧ t.position = t'.position ∧ t.isBase = t'.isBase
  fits : ∀ towers ∈ snapshots, ∀ p, ∀ t ∈ towers p, t.FitsLog

end Towers

namespace Logger

section Known

variable [Field K] [LinearOrder K] [FloorRing K] {known : Tower K → Prop}

/-- What is known of all towers that appear in a game. -/
structure Consistent (known : Tower K → Prop) : Prop where
  fits : ∀ t, known t → t.FitsLog
  same : ∀ t u, known t → known u → t.id = u.id →
    t.playerId = u.playerId ∧ t.position = u.position ∧ t.isBase = u.isBase

theorem Consistent.id_towerLogEntry (h : Consistent known) {t : Tower K} (ht : known t) :
    (towerLogEntry t).id = t.id := (h.fits t ht).id.int32_eq

/-- The view is that of the tower the entry remembers. -/
structure Matches (known : Tower K → Prop) (view : TowerView) (entry : TowerLogEntry) : Prop where
  id : view.id = entry.id
  hp : view.hp = entry.hp
  towerLevel : view.towerLevel = entry.level
  fixed : ∀ t, known t → t.id = entry.id → view.playerId = t.playerId.index ∧
    view.x = t.position.x.toInt ∧ view.y = t.position.y.toInt ∧ view.isBase = t.isBase

open Classical in
omit [Field K] [LinearOrder K] [FloorRing K] in
/-- The player an id belongs to. -/
noncomputable def ownerOf (known : Tower K → Prop) (id : ℤ) : PlayerId :=
  if ∃ t, known t ∧ t.id = id ∧ t.playerId = .player2 then .player2 else .player1

theorem Consistent.ownerOf_eq (h : Consistent known) {t : Tower K} (ht : known t) :
    ownerOf known t.id = t.playerId := by
  unfold ownerOf
  split
  · rename_i hex
    obtain ⟨u, hu, hid, hp⟩ := hex
    rw [← hp]
    exact ((h.same t u ht hu hid.symm).1).symm
  · rename_i hnot
    cases hp : t.playerId with
    | player1 => rfl
    | player2 => exact absurd ⟨t, ht, rfl, hp⟩ hnot

/-- The reader's table mirrors the tower logs of both players. -/
def Mirrored (known : Tower K → Prop) (views : ℤ → Option TowerView)
    (towerLogs : PlayerId → List TowerLogEntry) : Prop :=
  ∀ p, Mirrors (fun id => ownerOf known id = p) TowerLogEntry.id (Matches known) views (towerLogs p)

variable {views : ℤ → Option TowerView} {towerLogs : PlayerId → List TowerLogEntry} {p : PlayerId}

/-- What happens to the log of one player does not touch the other. -/
theorem Mirrored.step (h : Mirrored known views towerLogs) {id : ℤ} (hid : ownerOf known id = p)
    {view : Option TowerView} {towerLog : List TowerLogEntry}
    (hp : Mirrors (fun id => ownerOf known id = p) TowerLogEntry.id (Matches known)
      (Function.update views id view) towerLog) :
    Mirrored known (Function.update views id view) (Function.update towerLogs p towerLog) := by
  intro q
  by_cases hq : q = p
  · subst hq
    rw [Function.update_self]
    exact hp
  · rw [Function.update_of_ne hq]
    refine (h q).congr fun id' hid' => Function.update_of_ne ?_ _ _
    rintro rfl
    exact hq (hid'.symm.trans hid)

/-- **A tower was destroyed.** -/
theorem Mirrored.destroy (hc : Consistent known) (h : Mirrored known views towerLogs)
    {pre post : List TowerLogEntry} {entry : TowerLogEntry}
    (hlog : towerLogs p = pre ++ entry :: post) (hentry : ∀ x ∈ pre ++ post, x.id ≠ entry.id)
    (hknown : ∃ t, known t ∧ t.id = entry.id) :
    Mirrored known (readTower views (deadTower entry))
      (Function.update towerLogs p (pre ++ post)) := by
  obtain ⟨t, ht, hid⟩ := hknown
  have hint : int32 entry.id = entry.id := hid ▸ (hc.fits t ht).id.int32_eq
  have hp := h p
  rw [hlog] at hp
  have hread : readTower views (deadTower entry) = Function.update views entry.id none := by
    show Function.update views (int32 entry.id) none = _
    rw [hint]
  rw [hread]
  exact h.step (hp.owned entry (by simp)) (hp.erase hentry)

/-- **The stats of a tower have changed.** -/
theorem Mirrored.change (hc : Consistent known) (h : Mirrored known views towerLogs)
    {pre post : List TowerLogEntry} {entry : TowerLogEntry}
    (hlog : towerLogs p = pre ++ entry :: post) (hentry : ∀ x ∈ pre ++ post, x.id ≠ entry.id)
    {t : Tower K} (ht : known t) (hid : entry.id = t.id) :
    Mirrored known (readTower views (changedTower p t))
      (Function.update towerLogs p (pre ++ towerLogEntry t :: post)) := by
  have hfits := hc.fits t ht
  have hp := h p
  rw [hlog] at hp
  obtain ⟨view, hview, hmatch⟩ := hp.complete entry (by simp)
  have hint : int32 t.id = entry.id := hfits.id.int32_eq.trans hid.symm
  have hread : readTower views (changedTower p t) = Function.update views entry.id
      (some { view with hp := t.hp, towerLevel := t.towerLevel }) := by
    rw [readTower, if_neg (by simp [changedTower])]
    simp only [changedTower, hint, hfits.hp.int32_eq, hfits.towerLevel.int32_eq, hview]
  rw [hread]
  refine h.step (hp.owned entry (by simp)) (hp.replace hentry ?_ ?_)
  · exact hint
  · have hentry' : (towerLogEntry t).id = entry.id := hint
    exact ⟨hmatch.id.trans hentry'.symm, rfl, hfits.towerLevel.int32_eq.symm,
      fun u hu huid => hmatch.fixed u hu (huid.trans hentry')⟩

/-- **A tower is newly built.** -/
theorem Mirrored.new (hc : Consistent known) (h : Mirrored known views towerLogs) {t : Tower K}
    (ht : known t) (hp : t.playerId = p) (hnew : ∀ x ∈ towerLogs p, x.id ≠ t.id) :
    Mirrored known (readTower views (newTower t))
      (Function.update towerLogs p (towerLogs p ++ [towerLogEntry t])) := by
  have hfits := hc.fits t ht
  have howner : ownerOf known t.id = p := (hc.ownerOf_eq ht).trans hp
  have hindex : int32 t.playerId.index = t.playerId.index := by cases t.playerId <;> rfl
  have hentry : (towerLogEntry t).id = t.id := hfits.id.int32_eq
  have hnone : views t.id = none := (h p).eq_none howner hnew
  set view : TowerView := ⟨t.id, t.playerId.index, t.hp, t.position.x.toInt, t.position.y.toInt,
    t.isBase, t.towerLevel⟩ with hview
  have hread : readTower views (newTower t) =
      Function.update views (towerLogEntry t).id (some view) := by
    rw [hentry, hview, readTower, if_neg (by simp [newTower])]
    simp only [newTower, hfits.id.int32_eq, hfits.hp.int32_eq, hfits.towerLevel.int32_eq,
      hfits.x.int32_eq, hfits.y.int32_eq, hindex, hnone]
  rw [hread]
  refine h.step (hentry.symm ▸ howner) ((h p).push (hentry.symm ▸ howner) (hentry.symm ▸ hnew) ?_)
  refine ⟨hentry.symm, rfl, hfits.towerLevel.int32_eq.symm, ?_⟩
  intro u hu huid
  obtain ⟨hplayer, hposition, hbase⟩ := hc.same t u ht hu (hentry.symm.trans huid.symm)
  exact ⟨congrArg PlayerId.index hplayer, by rw [hview, hposition], by rw [hview, hposition], hbase⟩

end Known

/-! ## The loops -/

/-- The state of a diff of the towers of one player, with the part of the log that has
not been looked at yet: before it are the entries of the towers before `towerPtr`. -/
structure Scanning [Field K] [LinearOrder K] [FloorRing K] (known : Tower K → Prop)
    (views : ℤ → Option TowerView) (towerLogs : PlayerId → List TowerLogEntry) (p : PlayerId)
    (towers : List (Tower K)) (s : TowerScan) (rest : List TowerLogEntry) : Prop where
  towerPtr_le : s.towerPtr ≤ towers.length
  towerLog : s.towerLog = (towers.take s.towerPtr).map towerLogEntry ++ rest
  sorted : rest.Pairwise fun e f => e.id < f.id
  above : ∀ t ∈ towers.take s.towerPtr, ∀ e ∈ rest, t.id < e.id
  fresh : ∀ t ∈ towers.drop s.towerPtr, (∃ e ∈ rest, e.id = t.id) ∨ ∀ e ∈ rest, e.id < t.id
  knownLog : ∀ e ∈ rest, ∃ t, known t ∧ t.id = e.id
  mirrored : Mirrored known (s.frame.foldl readTower views) (Function.update towerLogs p s.towerLog)

section Scanning

variable [Field K] [LinearOrder K] [FloorRing K] {known : Tower K → Prop}
  {views : ℤ → Option TowerView} {towerLogs : PlayerId → List TowerLogEntry} {p : PlayerId}
  {towers : List (Tower K)} {s : TowerScan} {entry : TowerLogEntry} {rest : List TowerLogEntry}

omit [Field K] [LinearOrder K] [FloorRing K] in
theorem split_towers {i : ℕ} {t : Tower K} (ht : towers[i]? = some t) :
    towers.take (i + 1) = towers.take i ++ [t] ∧ towers.drop i = t :: towers.drop (i + 1) := by
  obtain ⟨hlt, hget⟩ := List.getElem?_eq_some_iff.mp ht
  exact ⟨by rw [List.take_add_one, ht]; rfl, by rw [List.drop_eq_getElem_cons hlt, hget]⟩

omit [Field K] [LinearOrder K] [FloorRing K] in
theorem id_lt_of_mem_drop (hsorted : towers.Pairwise fun t u => t.id < u.id) {i : ℕ} {t u : Tower K}
    (ht : towers[i]? = some t) (hu : u ∈ towers.drop (i + 1)) : t.id < u.id := by
  have hpair := hsorted.sublist (List.drop_sublist i towers)
  rw [(split_towers ht).2] at hpair
  exact (List.pairwise_cons.mp hpair).1 u hu

theorem Scanning.length_take (h : Scanning known views towerLogs p towers s rest)
    (hptr : s.logPtr = s.towerPtr) :
    ((towers.take s.towerPtr).map towerLogEntry).length = s.logPtr := by
  rw [List.length_map, List.length_take, hptr]
  exact min_eq_left h.towerPtr_le

theorem Scanning.getElem?_towerLog (h : Scanning known views towerLogs p towers s rest)
    (hptr : s.logPtr = s.towerPtr) : s.towerLog[s.logPtr]? = rest[0]? := by
  have hlength := h.length_take hptr
  rw [h.towerLog, List.getElem?_append_right (by omega), hlength, Nat.sub_self]

theorem Scanning.id_ne (h : Scanning known views towerLogs p towers s (entry :: rest))
    (hc : Consistent known) (htowers : ∀ t ∈ towers, known t) :
    ∀ x ∈ (towers.take s.towerPtr).map towerLogEntry ++ rest, x.id ≠ entry.id := by
  intro x hx
  rcases List.mem_append.mp hx with hx | hx
  · obtain ⟨t, ht, rfl⟩ := List.mem_map.mp hx
    have hlt := h.above t ht entry (List.mem_cons_self ..)
    have hid := hc.id_towerLogEntry (htowers t (List.mem_of_mem_take ht))
    omega
  · have hlt := (List.pairwise_cons.mp h.sorted).1 x hx
    omega

/-- **The next entry belongs to no tower any more.** -/
theorem Scanning.destroy (h : Scanning known views towerLogs p towers s (entry :: rest))
    (hc : Consistent known) (htowers : ∀ t ∈ towers, known t) (hptr : s.logPtr = s.towerPtr)
    (hdead : ∀ t ∈ towers.drop s.towerPtr, t.id ≠ entry.id) :
    Scanning known views towerLogs p towers (s.destroy entry) rest := by
  have hlength := h.length_take hptr
  have herase : (s.destroy entry).towerLog =
      (towers.take s.towerPtr).map towerLogEntry ++ rest := by
    show s.towerLog.eraseIdx s.logPtr = _
    rw [h.towerLog, List.eraseIdx_append_of_length_le hlength.le, hlength, Nat.sub_self]
    rfl
  refine ⟨h.towerPtr_le, herase, (List.pairwise_cons.mp h.sorted).2,
    fun t ht e he => h.above t ht e (List.mem_cons_of_mem _ he), ?_,
    fun e he => h.knownLog e (List.mem_cons_of_mem _ he), ?_⟩
  · intro t ht
    rcases h.fresh t ht with ⟨e, he, hid⟩ | hlt
    · rcases List.mem_cons.mp he with rfl | he
      · exact absurd hid.symm (hdead t ht)
      · exact .inl ⟨e, he, hid⟩
    · exact .inr fun e he => hlt e (List.mem_cons_of_mem _ he)
  · have hstep := h.mirrored.destroy (p := p) hc (by rw [Function.update_self, h.towerLog])
      (h.id_ne hc htowers) (h.knownLog entry (List.mem_cons_self ..))
    rw [Function.update_idem] at hstep
    rw [herase]
    show Mirrored known ((s.frame ++ [deadTower entry]).foldl readTower views) _
    rw [List.foldl_append]
    exact hstep

/-- What stays of the invariant when an entry and its tower are passed. -/
theorem Scanning.pass (h : Scanning known views towerLogs p towers s (entry :: rest))
    (hsorted : towers.Pairwise fun t u => t.id < u.id) {t : Tower K}
    (ht : towers[s.towerPtr]? = some t) (hid : entry.id = t.id) {s' : TowerScan}
    (hptr : s'.towerPtr = s.towerPtr + 1)
    (hlog : s'.towerLog = (towers.take s.towerPtr).map towerLogEntry ++ towerLogEntry t :: rest)
    (hmirrored : Mirrored known (s'.frame.foldl readTower views)
      (Function.update towerLogs p s'.towerLog)) :
    Scanning known views towerLogs p towers s' rest := by
  have hlt := (List.getElem?_eq_some_iff.mp ht).1
  obtain ⟨htake, hdrop⟩ := split_towers ht
  refine ⟨by omega, ?_, (List.pairwise_cons.mp h.sorted).2, ?_, ?_,
    fun e he => h.knownLog e (List.mem_cons_of_mem _ he), hmirrored⟩
  · rw [hlog, hptr, htake, List.map_append, List.append_assoc]
    rfl
  · intro u hu e he
    rw [hptr, htake] at hu
    rcases List.mem_append.mp hu with hu | hu
    · exact h.above u hu e (List.mem_cons_of_mem _ he)
    · rw [List.mem_singleton.mp hu, ← hid]
      exact (List.pairwise_cons.mp h.sorted).1 e he
  · intro u hu
    rw [hptr] at hu
    have htu := id_lt_of_mem_drop hsorted ht hu
    rcases h.fresh u (hdrop ▸ List.mem_cons_of_mem _ hu) with ⟨e, he, heu⟩ | hall
    · rcases List.mem_cons.mp he with rfl | he
      · omega
      · exact .inl ⟨e, he, heu⟩
    · exact .inr fun e he => hall e (List.mem_cons_of_mem _ he)

/-- **A round of the first loop.** -/
theorem Scanning.both (h : Scanning known views towerLogs p towers s rest) (hc : Consistent known)
    (htowers : ∀ t ∈ towers, known t) (hsorted : towers.Pairwise fun t u => t.id < u.id)
    (hptr : s.logPtr = s.towerPtr)
    (hcond : s.logPtr < s.towerLog.length ∧ s.towerPtr < towers.length) :
    (∃ rest', Scanning known views towerLogs p towers (s.both p towers) rest') ∧
      (s.both p towers).logPtr = (s.both p towers).towerPtr := by
  obtain ⟨hlog, htower⟩ := hcond
  have hget := h.getElem?_towerLog hptr
  rw [List.getElem?_eq_getElem hlog] at hget
  cases rest with
  | nil => cases hget
  | cons entry rest =>
    set t := towers[s.towerPtr] with htdef
    have hgett : towers[s.towerPtr]? = some t := List.getElem?_eq_getElem htower
    have hgetlog : s.towerLog[s.logPtr]? = some entry := h.getElem?_towerLog hptr
    have hmem : t ∈ towers := List.getElem_mem htower
    have hint : int32 t.id = t.id := (hc.fits t (htowers t hmem)).id.int32_eq
    have hlevel : int32 t.towerLevel = t.towerLevel :=
      (hc.fits t (htowers t hmem)).towerLevel.int32_eq
    have hdrop := (split_towers hgett).2
    have hlength := h.length_take hptr
    simp only [TowerScan.both, hgetlog, hgett, hint, hlevel]
    by_cases hid : entry.id = t.id
    · rw [if_pos hid]
      by_cases hstats : entry.hp ≠ t.hp ∨ entry.level ≠ t.towerLevel
      · -- the stats have changed
        rw [if_pos hstats]
        have hentry : ({ entry with hp := t.hp, level := t.towerLevel } : TowerLogEntry) =
            towerLogEntry t := by
          rw [towerLogEntry, hint, hlevel, ← hid]
        have hset : s.towerLog.set s.logPtr { entry with hp := t.hp, level := t.towerLevel } =
            (towers.take s.towerPtr).map towerLogEntry ++ towerLogEntry t :: rest := by
          rw [hentry, h.towerLog, List.set_append_right _ _ hlength.le, hlength, Nat.sub_self]
          rfl
        refine ⟨⟨rest, h.pass hsorted hgett hid rfl hset ?_⟩, congrArg (· + 1) hptr⟩
        have hstep := h.mirrored.change (p := p) hc (by rw [Function.update_self, h.towerLog])
          (h.id_ne hc htowers) (htowers t hmem) hid
        rw [Function.update_idem] at hstep
        show Mirrored known ((s.frame ++ [changedTower p t]).foldl readTower views) (Function.update
          towerLogs p (s.towerLog.set s.logPtr { entry with hp := t.hp, level := t.towerLevel }))
        rw [hset, List.foldl_append]
        exact hstep
      · -- they have not
        rw [if_neg hstats]
        rw [not_or, not_not, not_not] at hstats
        have hentry : entry = towerLogEntry t := by
          rw [towerLogEntry, hint, hlevel, ← hid, ← hstats.1, ← hstats.2]
        exact ⟨⟨rest, h.pass hsorted hgett hid rfl (by rw [← hentry]; exact h.towerLog) h.mirrored⟩,
          congrArg (· + 1) hptr⟩
    · rw [if_neg hid]
      -- the ids of the rest start with that of the entry, so that the tower is not new
      have hlt : entry.id < t.id := by
        rcases h.fresh t (hdrop ▸ List.mem_cons_self ..) with ⟨e, he, het⟩ | hall
        · rcases List.mem_cons.mp he with rfl | he
          · exact absurd het hid
          · exact het ▸ (List.pairwise_cons.mp h.sorted).1 e he
        · exact hall entry (List.mem_cons_self ..)
      rw [if_pos hlt]
      refine ⟨⟨rest, h.destroy hc htowers hptr ?_⟩, hptr⟩
      intro u hu
      rw [hdrop] at hu
      rcases List.mem_cons.mp hu with rfl | hu
      · omega
      · have htu := id_lt_of_mem_drop hsorted hgett hu
        omega

/-- **A round of the second loop.** -/
theorem Scanning.logTail (h : Scanning known views towerLogs p towers s rest)
    (hc : Consistent known)
    (htowers : ∀ t ∈ towers, known t) (hptr : s.logPtr = s.towerPtr)
    (hend : rest = [] ∨ towers.length ≤ s.towerPtr) (hcond : s.logPtr < s.towerLog.length) :
    (∃ rest', Scanning known views towerLogs p towers s.logTail rest') ∧
      s.logTail.logPtr = s.logTail.towerPtr ∧ towers.length ≤ s.logTail.towerPtr := by
  have hget := h.getElem?_towerLog hptr
  rw [List.getElem?_eq_getElem hcond] at hget
  cases rest with
  | nil => cases hget
  | cons entry rest =>
    have hle : towers.length ≤ s.towerPtr := hend.resolve_left (List.cons_ne_nil _ _)
    have hgetlog : s.towerLog[s.logPtr]? = some entry := h.getElem?_towerLog hptr
    simp only [TowerScan.logTail, hgetlog]
    refine ⟨⟨rest, h.destroy hc htowers hptr ?_⟩, hptr, hle⟩
    intro t ht
    rw [List.drop_eq_nil_of_le hle] at ht
    exact absurd ht List.not_mem_nil

/-- **A round of the third loop.** -/
theorem Scanning.towerTail (h : Scanning known views towerLogs p towers s [])
    (hc : Consistent known)
    (htowers : ∀ t ∈ towers, known t ∧ t.playerId = p)
    (hsorted : towers.Pairwise fun t u => t.id < u.id) (hcond : s.towerPtr < towers.length) :
    Scanning known views towerLogs p towers (s.towerTail towers) [] := by
  set t := towers[s.towerPtr] with htdef
  have hgett : towers[s.towerPtr]? = some t := List.getElem?_eq_getElem hcond
  have hmem : t ∈ towers := List.getElem_mem hcond
  have htake := (split_towers hgett).1
  have hlog : s.towerLog = (towers.take s.towerPtr).map towerLogEntry := by
    rw [h.towerLog, List.append_nil]
  simp only [TowerScan.towerTail, hgett]
  refine ⟨hcond, ?_, .nil, fun _ _ _ he => absurd he List.not_mem_nil,
    fun _ _ => .inr fun _ he => absurd he List.not_mem_nil,
    fun _ he => absurd he List.not_mem_nil, ?_⟩
  · show s.towerLog ++ [towerLogEntry t] = (towers.take (s.towerPtr + 1)).map towerLogEntry ++ []
    rw [htake, List.map_append, hlog, List.append_nil]
    rfl
  · have hnew : ∀ x ∈ Function.update towerLogs p s.towerLog p, x.id ≠ t.id := by
      intro x hx
      rw [Function.update_self, hlog] at hx
      obtain ⟨u, hu, rfl⟩ := List.mem_map.mp hx
      have hid := hc.id_towerLogEntry (htowers u (List.mem_of_mem_take hu)).1
      have hpair := hsorted.sublist (List.take_sublist (s.towerPtr + 1) towers)
      rw [htake] at hpair
      have := (List.pairwise_append.mp hpair).2.2 u hu t (List.mem_singleton_self t)
      omega
    have hstep := h.mirrored.new hc (htowers t hmem).1 (htowers t hmem).2 hnew
    rw [Function.update_idem, Function.update_self] at hstep
    show Mirrored known ((s.frame ++ [newTower t]).foldl readTower views)
      (Function.update towerLogs p (s.towerLog ++ [towerLogEntry t]))
    rw [List.foldl_append]
    exact hstep

theorem Scanning.whileBoth (h : Scanning known views towerLogs p towers s rest)
    (hc : Consistent known)
    (htowers : ∀ t ∈ towers, known t) (hsorted : towers.Pairwise fun t u => t.id < u.id)
    (hptr : s.logPtr = s.towerPtr) :
    let s' := whileLoop _ _ _ (TowerScan.logLeft_both p towers) s
    (∃ rest', Scanning known views towerLogs p towers s' rest' ∧
      (rest' = [] ∨ towers.length ≤ s'.towerPtr)) ∧ s'.logPtr = s'.towerPtr := by
  obtain ⟨⟨⟨rest', h'⟩, hptr'⟩, hexit⟩ := whileLoop_rule (TowerScan.logLeft_both p towers)
    (I := fun s => (∃ rest, Scanning known views towerLogs p towers s rest) ∧ s.logPtr = s.towerPtr)
    (fun s hs hcond => by
      obtain ⟨⟨rest, hs⟩, hptr⟩ := hs
      exact hs.both hc htowers hsorted hptr hcond) ⟨⟨rest, h⟩, hptr⟩
  refine ⟨⟨rest', h', ?_⟩, hptr'⟩
  cases rest' with
  | nil => exact .inl rfl
  | cons entry rest' =>
    have hget := h'.getElem?_towerLog hptr'
    have hlog := (List.getElem?_eq_some_iff.mp hget).1
    exact .inr (not_lt.mp fun htower => hexit ⟨hlog, htower⟩)

theorem Scanning.whileLogTail (h : Scanning known views towerLogs p towers s rest)
    (hc : Consistent known) (htowers : ∀ t ∈ towers, known t) (hptr : s.logPtr = s.towerPtr)
    (hend : rest = [] ∨ towers.length ≤ s.towerPtr) :
    Scanning known views towerLogs p towers (whileLoop _ _ _ TowerScan.logLeft_logTail s) [] := by
  obtain ⟨⟨rest', h', hptr', -⟩, hexit⟩ := whileLoop_rule TowerScan.logLeft_logTail
    (I := fun s => ∃ rest, Scanning known views towerLogs p towers s rest ∧ s.logPtr = s.towerPtr ∧
      (rest = [] ∨ towers.length ≤ s.towerPtr))
    (fun s hs hcond => by
      obtain ⟨rest, hs, hptr, hend⟩ := hs
      obtain ⟨⟨rest', hs'⟩, hptr', hle⟩ := hs.logTail hc htowers hptr hend hcond
      exact ⟨rest', hs', hptr', .inr hle⟩) ⟨rest, h, hptr, hend⟩
  cases rest' with
  | nil => exact h'
  | cons entry rest' =>
    have hget := h'.getElem?_towerLog hptr'
    exact absurd (List.getElem?_eq_some_iff.mp hget).1 hexit

theorem Scanning.whileTowerTail (h : Scanning known views towerLogs p towers s [])
    (hc : Consistent known) (htowers : ∀ t ∈ towers, known t ∧ t.playerId = p)
    (hsorted : towers.Pairwise fun t u => t.id < u.id) :
    let s' := whileLoop _ _ _ (TowerScan.towerLeft_towerTail towers) s
    Scanning known views towerLogs p towers s' [] ∧ towers.length ≤ s'.towerPtr := by
  obtain ⟨h', hexit⟩ := whileLoop_rule (TowerScan.towerLeft_towerTail towers)
    (I := fun s => Scanning known views towerLogs p towers s [])
    (fun s hs hcond => hs.towerTail hc htowers hsorted hcond) h
  exact ⟨h', not_lt.mp hexit⟩

/-- **The three loops** leave the tower list in the log, and the reader's table mirrors
it. -/
theorem Scanning.run (h : Scanning known views towerLogs p towers s rest) (hc : Consistent known)
    (htowers : ∀ t ∈ towers, known t ∧ t.playerId = p)
    (hsorted : towers.Pairwise fun t u => t.id < u.id) (hptr : s.logPtr = s.towerPtr) :
    (TowerScan.run p towers s).towerLog = towers.map towerLogEntry ∧
      Mirrored known ((TowerScan.run p towers s).frame.foldl readTower views)
        (Function.update towerLogs p (towers.map towerLogEntry)) := by
  have hknown : ∀ t ∈ towers, known t := fun t ht => (htowers t ht).1
  obtain ⟨⟨rest₁, h₁, hend⟩, hptr₁⟩ := h.whileBoth hc hknown hsorted hptr
  have h₂ := h₁.whileLogTail hc hknown hptr₁ hend
  obtain ⟨h₃, hle⟩ := h₂.whileTowerTail hc htowers hsorted
  have hlog : (TowerScan.run p towers s).towerLog = towers.map towerLogEntry := by
    refine h₃.towerLog.trans ?_
    rw [List.append_nil, List.take_of_length_le hle]
  exact ⟨hlog, hlog ▸ h₃.mirrored⟩

end Scanning

/-! ## Frames -/

section Frames

variable [Field K] [LinearOrder K] [FloorRing K] {known : Tower K → Prop}
  {views : ℤ → Option TowerView}

/-- The tower lists of a frame, among the towers that appear in a game. -/
structure Listed (known : Tower K → Prop) (towers : PlayerId → List (Tower K)) : Prop where
  known : ∀ p, ∀ t ∈ towers p, known t ∧ t.playerId = p
  sorted : ∀ p, (towers p).Pairwise fun t u => t.id < u.id

omit [Field K] [LinearOrder K] [FloorRing K] in
/-- The logs that remember the towers of a frame. -/
def logsOf (towers : PlayerId → List (Tower K)) (p : PlayerId) : List TowerLogEntry :=
  (towers p).map towerLogEntry

/-- **The diff of one player's towers**, between two frames. -/
theorem diffTowers_spec (hc : Consistent known) {before : PlayerId → List (Tower K)} {st : State K}
    (hbefore : Listed known before) (hafter : Listed known st.towers) {p : PlayerId}
    (hfresh : ∀ t ∈ st.towers p, (∃ u ∈ before p, u.id = t.id) ∨ ∀ u ∈ before p, u.id < t.id)
    {l : Logger} {frame : List Proto.Tower} (hlog : l.towerLogs p = logsOf before p)
    (hmirrored : Mirrored known (frame.foldl readTower views) l.towerLogs) :
    ∃ frame', diffTowers st (l, frame) p =
        ({ l with towerLogs := Function.update l.towerLogs p (logsOf st.towers p) }, frame') ∧
      Mirrored known (frame'.foldl readTower views)
        (Function.update l.towerLogs p (logsOf st.towers p)) := by
  have hid : ∀ u ∈ before p, (towerLogEntry u).id = u.id := fun u hu =>
    hc.id_towerLogEntry (hbefore.known p u hu).1
  have hscan : Scanning known views l.towerLogs p (st.towers p)
      { logPtr := 0, towerPtr := 0, towerLog := l.towerLogs p, frame := frame }
      (l.towerLogs p) := by
    refine ⟨Nat.zero_le _, rfl, ?_, fun t ht => absurd ht (by simp), ?_, ?_, ?_⟩
    · rw [hlog]
      refine List.pairwise_map.mpr ((hbefore.sorted p).imp_of_mem fun ht hu hlt => ?_)
      rwa [hid _ ht, hid _ hu]
    · intro t ht
      rw [hlog]
      rcases hfresh t (by simpa using ht) with ⟨u, hu, hut⟩ | hall
      · exact .inl ⟨_, List.mem_map_of_mem hu, (hid u hu).trans hut⟩
      · refine .inr ?_
        intro e he
        obtain ⟨u, hu, rfl⟩ := List.mem_map.mp he
        rw [hid u hu]
        exact hall u hu
    · intro e he
      rw [hlog] at he
      obtain ⟨u, hu, rfl⟩ := List.mem_map.mp he
      exact ⟨u, (hbefore.known p u hu).1, (hid u hu).symm⟩
    · rw [Function.update_eq_self]
      exact hmirrored
  obtain ⟨htowerLog, hrun⟩ := hscan.run hc (hafter.known p) (hafter.sorted p) rfl
  refine ⟨_, ?_, hrun⟩
  rw [diffTowers, htowerLog]
  rfl

/-- **The diff of both players' towers.** -/
theorem foldl_diffTowers (hc : Consistent known) {before : PlayerId → List (Tower K)} {st : State K}
    (hbefore : Listed known before) (hafter : Listed known st.towers)
    (hfresh : ∀ p, ∀ t ∈ st.towers p,
      (∃ u ∈ before p, u.id = t.id) ∨ ∀ u ∈ before p, u.id < t.id)
    {l : Logger} (hlog : l.towerLogs = logsOf before)
    (hmirrored : Mirrored known views l.towerLogs) :
    ∃ frame, PlayerId.all.foldl (diffTowers st) (l, []) =
        ({ l with towerLogs := logsOf st.towers }, frame) ∧
      Mirrored known (frame.foldl readTower views) (logsOf st.towers) := by
  have hstart : Mirrored known (([] : List Proto.Tower).foldl readTower views) l.towerLogs :=
    hmirrored
  obtain ⟨frame₁, h₁, hmirrored₁⟩ := diffTowers_spec hc hbefore hafter (hfresh .player1)
    (congrFun hlog _) hstart
  have hother : Function.update l.towerLogs .player1 (logsOf st.towers .player1) .player2 =
      logsOf before .player2 := by
    rw [Function.update_of_ne (by decide), hlog]
  obtain ⟨frame₂, h₂, hmirrored₂⟩ := diffTowers_spec hc hbefore hafter (hfresh .player2)
    (l := { l with towerLogs := Function.update l.towerLogs .player1 (logsOf st.towers .player1) })
    hother hmirrored₁
  have hlogs : Function.update (Function.update l.towerLogs .player1 (logsOf st.towers .player1))
      .player2 (logsOf st.towers .player2) = logsOf st.towers := by
    ext p
    cases p <;> rfl
  refine ⟨frame₂, ?_, hlogs ▸ hmirrored₂⟩
  show diffTowers st (diffTowers st (l, []) .player1) .player2 = _
  rw [h₁, h₂]
  exact congrArg (fun logs => ({ l with towerLogs := logs }, frame₂)) hlogs

theorem Mirrored.newTowers (hc : Consistent known) {p : PlayerId} {ts : List (Tower K)}
    (hts : ∀ t ∈ ts, known t ∧ t.playerId = p) (hsorted : ts.Pairwise fun t u => t.id < u.id)
    {towerLogs : PlayerId → List TowerLogEntry} (h : Mirrored known views towerLogs)
    (hnew : ∀ x ∈ towerLogs p, ∀ t ∈ ts, x.id ≠ t.id) :
    Mirrored known ((ts.map newTower).foldl readTower views)
      (Function.update towerLogs p (towerLogs p ++ ts.map towerLogEntry)) := by
  induction ts generalizing views towerLogs with
  | nil =>
    rw [List.map_nil, List.map_nil, List.append_nil, Function.update_eq_self]
    exact h
  | cons t ts ih =>
    obtain ⟨ht, htp⟩ := hts t (List.mem_cons_self ..)
    obtain ⟨hlt, hsorted⟩ := List.pairwise_cons.mp hsorted
    have hstep := h.new hc ht htp fun x hx => hnew x hx t (List.mem_cons_self ..)
    have hrest := ih (fun u hu => hts u (List.mem_cons_of_mem _ hu)) hsorted hstep
      fun x hx u hu => by
      rw [Function.update_self] at hx
      rcases List.mem_append.mp hx with hx | hx
      · exact hnew x hx u (List.mem_cons_of_mem _ hu)
      · have hid := hc.id_towerLogEntry ht
        have := hlt u hu
        rw [List.mem_singleton.mp hx]
        omega
    rw [Function.update_idem, Function.update_self, List.append_assoc] at hrest
    exact hrest

/-- **The first frame.** -/
theorem mirrored_firstTurn (hc : Consistent known) {st : State K} (h : Listed known st.towers) :
    Mirrored known ((PlayerId.all.flatMap fun p => (st.towers p).map newTower).foldl readTower
      fun _ => none) (logsOf st.towers) := by
  have h₀ : Mirrored known (fun _ => none) fun _ => [] := fun p => mirrors_nil
  have h₁ := h₀.newTowers hc (h.known .player1) (h.sorted .player1)
    fun x hx => absurd hx List.not_mem_nil
  have h₂ := h₁.newTowers hc (h.known .player2) (h.sorted .player2) fun x hx => by
    rw [Function.update_of_ne (show PlayerId.player2 ≠ .player1 by decide)] at hx
    exact absurd hx List.not_mem_nil
  have hlogs : Function.update (Function.update (fun _ => []) .player1
      ([] ++ (st.towers .player1).map towerLogEntry)) .player2
        ([] ++ (st.towers .player2).map towerLogEntry) = logsOf st.towers := by
    ext p
    cases p <;> rfl
  rw [List.foldl_flatMap]
  exact hlogs ▸ h₂

/-- Every target pointer of a soldier points to an actor. -/
def TargetsAllocated (st : State K) : Prop :=
  ∀ p, ∀ s ∈ st.soldiers p, ∀ ptr, s.attackTarget = some ptr → ∃ a, st.deref ptr = some a

theorem exists_logSoldier {st : State K} (h : TargetsAllocated st) {p : PlayerId} {s : Soldier K}
    (hs : s ∈ st.soldiers p) : ∃ message, logSoldier st s = .ok message := by
  cases hptr : s.attackTarget with
  | none => exact ⟨_, by rw [logSoldier, hptr]; rfl⟩
  | some ptr =>
    obtain ⟨a, ha⟩ := h p s hs ptr hptr
    exact ⟨_, by simp only [logSoldier, hptr, ha]; rfl⟩

theorem exists_logFirstTurn (c : Constants K) {st : State K} (h : st.soldiers .player1 ≠ [])
    (l : Logger) : ∃ l', logFirstTurn c st l =
        .ok (l', PlayerId.all.flatMap fun p => (st.towers p).map newTower) ∧
      l'.turnCount = l.turnCount ∧ l'.towerLogs = logsOf st.towers ∧
      l'.logs.states = l.logs.states := by
  unfold logFirstTurn
  cases hs : st.soldiers .player1 with
  | nil => exact absurd hs h
  | cons s ss => exact ⟨_, rfl, rfl, rfl, rfl⟩

theorem exists_logAllTurns {st : State K} (h : TargetsAllocated st) (l : Logger)
    (towers : List Proto.Tower) : ∃ l' frame, logAllTurns st l towers = .ok l' ∧
      frame.towers = towers ∧ l'.turnCount = l.turnCount ∧ l'.towerLogs = l.towerLogs ∧
      l'.logs.states = l.logs.states ++ [frame] := by
  obtain ⟨soldiers, hmap⟩ : ∃ soldiers, (PlayerId.all.flatMap st.soldiers).mapM (logSoldier st) =
      .ok soldiers := exists_mapM_eq_ok fun s hs => by
    obtain ⟨p, -, hs⟩ := List.mem_flatMap.mp hs
    exact exists_logSoldier h hs
  unfold logAllTurns
  rw [hmap]
  exact ⟨_, _, rfl, rfl, rfl, rfl, rfl⟩

/-- What the logger has logged: the frames, and the towers of the last one. -/
structure Kept (known : Tower K → Prop) (snapshots : List (PlayerId → List (Tower K)))
    (l : Logger) :
    Prop where
  turnCount : l.turnCount = snapshots.length
  frames : l.logs.states.length = snapshots.length
  mirrored : ∀ (n : ℕ) towers, snapshots[n]? = some towers →
    Mirrored known (readFrames (l.logs.states.take (n + 1))) (logsOf towers)
  towerLogs : ∀ towers ∈ snapshots.getLast?, l.towerLogs = logsOf towers

theorem Kept.mirrored_all {snapshots : List (PlayerId → List (Tower K))} {l : Logger}
    (h : Kept known snapshots l) {before : PlayerId → List (Tower K)}
    (hlast : snapshots.getLast? = some before) :
    Mirrored known (readFrames l.logs.states) l.towerLogs := by
  have hne : snapshots ≠ [] := by
    rintro rfl
    cases hlast
  have hpos := List.length_pos_iff.mpr hne
  rw [List.getLast?_eq_getElem?] at hlast
  have hmirrored := h.mirrored _ _ hlast
  rw [Nat.sub_add_cancel hpos, ← h.frames, List.take_length] at hmirrored
  rwa [h.towerLogs before (by rw [List.getLast?_eq_getElem?]; exact hlast)]

/-- What is left to show of a frame: the towers it logs, and the logs after it. -/
theorem Kept.concat {snapshots : List (PlayerId → List (Tower K))} {l l' : Logger}
    (h : Kept known snapshots l) {towers : PlayerId → List (Tower K)} {frame : Proto.GameState}
    (hcount : l'.turnCount = l.turnCount + 1) (hstates : l'.logs.states = l.logs.states ++ [frame])
    (hlogs : l'.towerLogs = logsOf towers)
    (hmirrored : Mirrored known (frame.towers.foldl readTower (readFrames l.logs.states))
      (logsOf towers)) : Kept known (snapshots ++ [towers]) l' where
  turnCount := by
    rw [hcount, h.turnCount, List.length_append, Nat.cast_add]
    rfl
  frames := by
    rw [hstates, List.length_append, List.length_append, h.frames]
    rfl
  mirrored := fun n towers' hn => by
    by_cases hlt : n < snapshots.length
    · rw [List.getElem?_append_left hlt] at hn
      have hframes := h.frames
      rw [hstates, List.take_append_of_le_length (by omega)]
      exact h.mirrored n towers' hn
    · have hlength := (List.getElem?_eq_some_iff.mp hn).1
      rw [List.length_append] at hlength
      have heq : n = snapshots.length := by
        simp only [List.length_singleton] at hlength
        omega
      subst heq
      rw [List.getElem?_concat_length] at hn
      obtain rfl := Option.some.inj hn
      rw [List.take_of_length_le (by rw [hstates, List.length_append, h.frames]; rfl), hstates,
        readFrames_concat]
      exact hmirrored
  towerLogs := fun towers' hlast => by
    rw [List.getLast?_concat] at hlast
    rw [hlogs, Option.some.inj hlast]

/-- **A call of `LogState`** succeeds and keeps what the logger has logged. -/
theorem Kept.logState (hc : Consistent known) {snapshots : List (PlayerId → List (Tower K))}
    {l : Logger} (h : Kept known snapshots l) (c : Constants K) {st : State K}
    (hlisted : Listed known st.towers)
    (hbefore : ∀ before ∈ snapshots.getLast?, Listed known before ∧ ∀ p, ∀ t ∈ st.towers p,
      (∃ u ∈ before p, u.id = t.id) ∨ ∀ u ∈ before p, u.id < t.id)
    (hsoldiers : snapshots = [] → st.soldiers .player1 ≠ []) (htargets : TargetsAllocated st) :
    ∃ l', Logger.logState c l st = .ok l' ∧ Kept known (snapshots ++ [st.towers]) l' := by
  cases hlast : snapshots.getLast? with
  | none =>
    obtain rfl := List.getLast?_eq_none_iff.mp hlast
    have hcount : l.turnCount = 0 := h.turnCount
    have hnil : l.logs.states = [] := List.eq_nil_of_length_eq_zero h.frames
    obtain ⟨l₁, hfirst, hcount₁, hlogs₁, hstates₁⟩ := exists_logFirstTurn c (hsoldiers rfl)
      { l with turnCount := l.turnCount + 1 }
    obtain ⟨l', frame, hall, htowers, hcount', hlogs', hstates'⟩ := exists_logAllTurns htargets l₁
      (PlayerId.all.flatMap fun p => (st.towers p).map newTower)
    refine ⟨l', ?_, h.concat (hcount'.trans hcount₁) (hstates₁ ▸ hstates') (hlogs'.trans hlogs₁) ?_⟩
    · have hone : l.turnCount + 1 = 1 := by omega
      rw [Logger.logState, if_pos hone, hfirst, ok_bind]
      exact hall
    · rw [htowers, hnil]
      exact mirrored_firstTurn hc hlisted
  | some before =>
    have hne : snapshots.length ≠ 0 := by
      rw [Ne, List.length_eq_zero_iff]
      rintro rfl
      cases hlast
    obtain ⟨hlistedBefore, hfresh⟩ := hbefore before hlast
    obtain ⟨frame₁, hdiff, hmirrored⟩ := foldl_diffTowers hc hlistedBefore hlisted hfresh
      (l := { l with turnCount := l.turnCount + 1 }) (h.towerLogs before hlast)
      (h.mirrored_all hlast)
    obtain ⟨l', frame, hall, htowers, hcount', hlogs', hstates'⟩ := exists_logAllTurns htargets
      { l with turnCount := l.turnCount + 1, towerLogs := logsOf st.towers } frame₁
    refine ⟨l', ?_, h.concat hcount' hstates' hlogs' (htowers ▸ hmirrored)⟩
    have hcount : l.turnCount + 1 ≠ 1 := by
      rw [h.turnCount]
      omega
    rw [Logger.logState, if_neg hcount, hdiff, ok_bind]
    exact hall

end Frames

/-! ## Runs -/

section Runs

variable [Field K] [LinearOrder K] [FloorRing K]

/-- The towers that appear in some frame. -/
def Appears (snapshots : List (PlayerId → List (Tower K))) (t : Tower K) : Prop :=
  ∃ towers ∈ snapshots, ∃ p, t ∈ towers p

end Runs

section Snapshots

variable [Field K] [LinearOrder K] [FloorRing K] {snapshots : List (PlayerId → List (Tower K))}

theorem consistent_of_snapshots (h : Snapshots snapshots) : Consistent (Appears snapshots) where
  fits := fun t ⟨towers, htowers, p, ht⟩ => h.fits towers htowers p t ht
  same := fun t u ⟨towers, htowers, p, ht⟩ ⟨towers', htowers', p', hu⟩ hid =>
    h.fixed towers htowers towers' htowers' p p' t ht u hu hid

theorem listed_of_snapshots (h : Snapshots snapshots) {towers : PlayerId → List (Tower K)}
    (htowers : towers ∈ snapshots) : Listed (Appears snapshots) towers where
  known := fun p t ht => ⟨⟨towers, htowers, p, ht⟩, h.owned towers htowers p t ht⟩
  sorted := h.sorted towers htowers

/-- What the next frame is promised. -/
theorem before_of_snapshots (h : Snapshots snapshots) {past rest : List (PlayerId → List (Tower K))}
    {towers : PlayerId → List (Tower K)} (hsplit : snapshots = past ++ towers :: rest) :
    ∀ before ∈ past.getLast?, Listed (Appears snapshots) before ∧ ∀ p, ∀ t ∈ towers p,
      (∃ u ∈ before p, u.id = t.id) ∨ ∀ u ∈ before p, u.id < t.id := by
  intro before hlast
  have hmem : before ∈ past := List.mem_of_mem_getLast? hlast
  refine ⟨listed_of_snapshots h (hsplit ▸ List.mem_append_left _ hmem), ?_⟩
  intro p t ht
  have hpos := List.length_pos_of_mem hmem
  rw [Option.mem_def, List.getLast?_eq_getElem?] at hlast
  have hbefore : snapshots[past.length - 1]? = some before := by
    rw [hsplit, List.getElem?_append_left (by omega)]
    exact hlast
  have hafter : snapshots[past.length - 1 + 1]? = some towers := by
    rw [hsplit, Nat.sub_add_cancel hpos, List.getElem?_append_right le_rfl, Nat.sub_self]
    rfl
  rcases h.fresh _ before towers hbefore hafter p t ht with hold | hnew
  · exact .inl hold
  · refine .inr fun u hu => hnew before (List.mem_of_getElem? (i := past.length - 1) ?_) u hu
    rw [List.getElem?_take_of_lt (by omega)]
    exact hbefore

theorem Kept.congr {known : Tower K → Prop} {l l' : Logger} (h : Kept known snapshots l)
    (hcount : l'.turnCount = l.turnCount) (hstates : l'.logs.states = l.logs.states)
    (hlogs : l'.towerLogs = l.towerLogs) : Kept known snapshots l' where
  turnCount := hcount.trans h.turnCount
  frames := by rw [hstates, h.frames]
  mirrored := by
    rw [hstates]
    exact h.mirrored
  towerLogs := fun towers hlast => hlogs.trans (h.towerLogs towers hlast)

/-- **A run of the logger** succeeds and keeps what the logger has logged. -/
theorem exists_run {calls : List (Call K)}
    (h : Snapshots ((loggedStates calls).map State.towers))
    (hsoldiers : ∀ st ∈ (loggedStates calls).head?, st.soldiers .player1 ≠ [])
    (htargets : ∀ st ∈ loggedStates calls, TargetsAllocated st) (c : Constants K)
    (playerInstructionLimitTurn playerInstructionLimitGame : ℤ) :
    ∃ l, run c calls (start playerInstructionLimitTurn playerInstructionLimitGame) = .ok l ∧
      Kept (Appears ((loggedStates calls).map State.towers))
        ((loggedStates calls).map State.towers) l := by
  set states := loggedStates calls with hstates
  have hc := consistent_of_snapshots h
  obtain ⟨l, hrun, past, hpast, hkept⟩ := foldlM_queue (f := call c)
    (I := fun rest l => ∃ past, states = past ++ loggedStates rest ∧
      Kept (Appears (states.map State.towers)) (past.map State.towers) l)
    (fun a rest l hI => by
      obtain ⟨past, hpast, hkept⟩ := hI
      cases a with
      | state st =>
        have hsplit : states = past ++ st :: loggedStates rest := hpast
        have hmem : st ∈ states := hsplit ▸ List.mem_append_right _ (List.mem_cons_self ..)
        obtain ⟨l', hl', hkept'⟩ := hkept.logState hc c
          (listed_of_snapshots h (List.mem_map_of_mem hmem))
          (before_of_snapshots h (by rw [hsplit, List.map_append]; rfl)) (fun hnil => by
            rw [List.map_eq_nil_iff.mp hnil, List.nil_append] at hsplit
            exact hsoldiers st (by rw [hsplit]; rfl)) (htargets st hmem)
        refine ⟨l', hl', past ++ [st], by rw [hsplit, List.append_assoc]; rfl, ?_⟩
        rw [List.map_append]
        exact hkept'
      | instructionCount p count => exact ⟨_, rfl, past, hpast, hkept.congr rfl rfl rfl⟩
      | error p errorType message =>
        obtain ⟨hcount, hlogs, htowerLogs, -⟩ := logError_eq l p errorType message
        exact ⟨_, rfl, past, hpast,
          hkept.congr hcount (congrArg Proto.Game.states hlogs) htowerLogs⟩
      | finalGameParams => exact ⟨_, rfl, past, hpast, hkept.congr rfl rfl rfl⟩)
    (s := start playerInstructionLimitTurn playerInstructionLimitGame)
    ⟨[], hstates, rfl, rfl, by simp, by simp⟩
  refine ⟨l, hrun, ?_⟩
  rw [show states = past from hpast.trans (List.append_nil _)] at hkept ⊢
  exact hkept

end Snapshots

/-! ## The reader -/

section Reader

variable [Field K] [LinearOrder K] [FloorRing K] [IsStrictOrderedRing K]

/-- A view that matches the entry of a tower is a view of the tower. -/
theorem Matches.shownAs {known : Tower K → Prop} (hc : Consistent known) {t : Tower K}
    (ht : known t)
    {view : TowerView} (h : Matches known view (towerLogEntry t)) : t.ShownAs view := by
  have hfits := hc.fits t ht
  have hid : (towerLogEntry t).id = t.id := hfits.id.int32_eq
  obtain ⟨hplayer, hx, hy, hbase⟩ := h.fixed t ht hid.symm
  refine ⟨h.id.trans hid, hplayer, h.hp, h.towerLevel.trans hfits.towerLevel.int32_eq, hbase,
    hx, hy, ?_⟩
  intro x y hposition
  rw [hx, hy, hposition]
  show Vector.ofInt (Double.ofInt x : Double K).toInt (Double.ofInt y : Double K).toInt = _
  rw [Double.toInt_ofInt, Double.toInt_ofInt]

/-- **The tower log is lossless**: whatever else is logged in between, a reader of the
frames has after each of them exactly the towers of its state. -/
theorem towerLog_lossless {calls : List (Call K)}
    (h : Snapshots ((loggedStates calls).map State.towers))
    (hsoldiers : ∀ st ∈ (loggedStates calls).head?, st.soldiers .player1 ≠ [])
    (htargets : ∀ st ∈ loggedStates calls, TargetsAllocated st) (c : Constants K)
    (playerInstructionLimitTurn playerInstructionLimitGame : ℤ) :
    ∃ l, run c calls (start playerInstructionLimitTurn playerInstructionLimitGame) = .ok l ∧
      l.logs.states.length = (loggedStates calls).length ∧
      ∀ (n : ℕ) st, (loggedStates calls)[n]? = some st → ∀ id view,
        readFrames (l.logs.states.take (n + 1)) id = some view ↔
          ∃ p, ∃ t ∈ st.towers p, t.id = id ∧ t.ShownAs view := by
  obtain ⟨l, hrun, hkept⟩ := exists_run h hsoldiers htargets c playerInstructionLimitTurn
    playerInstructionLimitGame
  have hc := consistent_of_snapshots h
  refine ⟨l, hrun, by rw [hkept.frames, List.length_map], ?_⟩
  intro n st hst id view
  have hsnapshot : ((loggedStates calls).map State.towers)[n]? = some st.towers := by
    rw [List.getElem?_map, hst]
    rfl
  have hlisted := listed_of_snapshots h (List.mem_of_getElem? hsnapshot)
  have hmirrored := hkept.mirrored n st.towers hsnapshot
  constructor
  · intro hview
    obtain ⟨entry, hentry, rfl, hmatch⟩ := (hmirrored _).sound id view rfl hview
    obtain ⟨t, ht, rfl⟩ := List.mem_map.mp hentry
    have hknown := (hlisted.known _ t ht).1
    exact ⟨_, t, ht, (hc.id_towerLogEntry hknown).symm, hmatch.shownAs hc hknown⟩
  · rintro ⟨p, t, ht, rfl, hshown⟩
    have hknown := (hlisted.known p t ht).1
    obtain ⟨view', hview', hmatch⟩ := (hmirrored p).complete _ (List.mem_map_of_mem ht)
    rw [hshown.unique (hmatch.shownAs hc hknown), ← hview']
    exact congrArg _ (hc.id_towerLogEntry hknown).symm

end Reader

/-- A state of the small game with the given towers. -/
def sampleFrame (towers : PlayerId → List (Tower ℚ)) : State ℚ where
  soldiers p := [buildSoldier sampleRules.toConstants p p.index]
  map := buildMap sampleRules.toConstants
  moneyManager := buildMoneyManager sampleRules.toConstants
  towerManagers p := {
    towers := towers p
    playerId := p
    towersToBuildOffsets := []
    towersToUpgrade := []
    towersToSuicide := []
    towersToDelete0 := []
    towersToDelete1 := []
    territoryRefs := fun _ => 0 }
  actorIdIncrement := 6

/-- Its soldiers have no targets. -/
theorem targetsAllocated_sampleFrame (towers : PlayerId → List (Tower ℚ)) :
    TargetsAllocated (sampleFrame towers) := by
  intro p s hs ptr hptr
  obtain rfl := List.mem_singleton.mp hs
  cases hptr

/-- The towers of three frames: in the second player 1 has lost a tower and built
another, and the base of player 2 is upgraded; in the third nothing has changed. -/
def sampleSnapshots : List (PlayerId → List (Tower ℚ)) :=
  let tower (id : ℤ) (p : PlayerId) (x y : ℤ) (isBase : Bool) (towerLevel : ℤ) : Tower ℚ :=
    ⟨id, p, towerLevel, towerLevel, Vector.ofInt x y, isBase, towerLevel⟩
  let after : PlayerId → List (Tower ℚ)
    | .player1 => [tower 2 .player1 1 1 true 1, tower 5 .player1 3 1 false 1]
    | .player2 => [tower 3 .player2 7 7 true 2]
  let before : PlayerId → List (Tower ℚ)
    | .player1 => [tower 2 .player1 1 1 true 1, tower 4 .player1 1 3 false 2]
    | .player2 => [tower 3 .player2 7 7 true 1]
  [before, after, after]

theorem snapshots_sample : Snapshots sampleSnapshots where
  sorted := by decide +kernel
  owned := by decide +kernel
  fresh := fun n before after hbefore hafter => by
    match n with
    | 0 =>
      obtain rfl := Option.some.inj hbefore
      obtain rfl := Option.some.inj hafter
      decide +kernel
    | 1 =>
      obtain rfl := Option.some.inj hbefore
      obtain rfl := Option.some.inj hafter
      decide +kernel
    | n + 2 => cases hafter
  fixed := by decide +kernel
  fits := fun towers htowers p t ht => by
    have hall : ∀ towers ∈ sampleSnapshots, ∀ p, ∀ t ∈ towers p, IsInt32 t.id ∧ IsInt32 t.hp ∧
        IsInt32 t.towerLevel ∧ IsInt32 t.position.x.toInt ∧ IsInt32 t.position.y.toInt := by
      decide +kernel
    obtain ⟨hid, hhp, hlevel, hx, hy⟩ := hall towers htowers p t ht
    exact ⟨hid, hhp, hlevel, hx, hy⟩

/-- The calls that log the three frames, each after an error. -/
def sampleCalls : List (Call ℚ) :=
  sampleSnapshots.flatMap fun towers =>
    [.error .player1 .invalidPosition "", .state (sampleFrame towers)]

/-- The three frames are read back. -/
theorem towerLog_lossless_sample :
    ∃ l, run sampleRules.toConstants sampleCalls (start 10 100) = .ok l ∧
      l.logs.states.length = (loggedStates sampleCalls).length ∧
      ∀ (n : ℕ) st, (loggedStates sampleCalls)[n]? = some st → ∀ id view,
        readFrames (l.logs.states.take (n + 1)) id = some view ↔
          ∃ p, ∃ t ∈ st.towers p, t.id = id ∧ t.ShownAs view := by
  have hframe : ∀ st ∈ loggedStates sampleCalls, ∃ towers, st = sampleFrame towers := by
    have hstates : loggedStates sampleCalls = sampleSnapshots.map sampleFrame := rfl
    rw [hstates]
    intro st hst
    obtain ⟨towers, -, rfl⟩ := List.mem_map.mp hst
    exact ⟨towers, rfl⟩
  refine @towerLog_lossless ℚ _ _ _ _ sampleCalls snapshots_sample ?_
    ?_ sampleRules.toConstants 10 100
  · intro st hst
    obtain ⟨towers, rfl⟩ := hframe st (List.mem_of_mem_head? hst)
    exact List.cons_ne_nil _ _
  · intro st hst
    obtain ⟨towers, rfl⟩ := hframe st hst
    exact targetsAllocated_sampleFrame towers

end Logger

end Simulator
