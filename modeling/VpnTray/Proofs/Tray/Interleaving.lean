import VpnTray.Proofs.Tray.Scene

/-!
# Calls of several threads

The signals of a change are sent after the state has changed, so that those of different
calls can overtake each other, and the desktop may read what has not been announced yet.
Still nothing is lost:

* once all calls are done and all signals are taken, the copies of the desktop are what
  it would read now, and each revision has been announced once (`settled_of_reaches`);
* a revision names one content of the menu (`sameMenu_of_revision_eq`).
-/

namespace VpnTray.Scene

variable {state : State} {scene next : Scene} {pending pending' : List Signal}

/-! ## Copies -/

/-- A copy is what would be read now, or a signal is pending by which it will be read again. -/
def Covered (scene : Scene) (pending : List Signal) (part : Bus.Part) : Prop :=
  scene.copies part = fresh scene.tray part ∨ ∃ signal ∈ pending, signal.part = part

theorem fresh_congr {tray tray' : Tray} (h : tray'.state = tray.state) :
    fresh tray' = fresh tray := by
  funext part
  rw [fresh, fresh, Bus.answer_call, Bus.answer_call, h]

/-- A part stays covered when neither the copy nor what would be read changes, and no signal
    for this part is lost. -/
theorem Covered.mono {part : Bus.Part} (h : Covered scene pending part)
    (hcopy : next.copies part = scene.copies part)
    (hfresh : fresh next.tray part = fresh scene.tray part)
    (hpending : ∀ signal ∈ pending, signal.part = part → signal ∈ pending') :
    Covered next pending' part := by
  rw [Covered, hcopy, hfresh]
  exact h.imp_right fun ⟨signal, hmem, hpart⟩ => ⟨signal, hpending signal hmem hpart, hpart⟩

theorem Covered.move {part : Bus.Part} (h : Covered scene pending part)
    (hmove : Move scene next pending pending') : Covered next pending' part := by
  cases hmove with
  | idle htray hcopies _ _ hpending =>
    refine h.mono (congrFun hcopies part) (congrFun (fresh_congr htray) part) ?_
    exact fun _ hmem _ => hpending.mem_iff.2 hmem
  | change hafter hcopies _ _ hpending =>
    rcases hafter.reply_or_mem_announcement part with hsame | ⟨signal, hmem, hpart⟩
    · -- The change does not touch this part, so it is covered as before.
      refine h.mono (congrFun hcopies part) ?_ fun _ hmem _ => ?_
      · rw [fresh, fresh, Bus.answer_call, Bus.answer_call, hsame]
      · exact hpending.mem_iff.2 (List.mem_append_left _ hmem)
    · exact .inr ⟨signal, hpending.mem_iff.2 (List.mem_append_right _ hmem), hpart⟩
  | take taken htray hcopies _ _ hpending =>
    by_cases htaken : taken.part = part
    · refine .inl ?_
      rw [hcopies, fresh_congr htray, reread, if_pos htaken]
    · -- The signal was for another part, so that none is missing for this one.
      refine h.mono ?_ (congrFun (fresh_congr htray) part) fun signal hmem hpart => ?_
      · rw [hcopies, reread, if_neg htaken]
      · refine (List.mem_cons.1 (hpending.mem_iff.1 hmem)).resolve_left ?_
        rintro rfl
        exact htaken hpart

/-! ## Announcements -/

/-- The revisions that changes led to are those that have been or will be announced. -/
def Announced (scene : Scene) (pending : List Signal) : Prop :=
  (announcedRevisions (scene.taken ++ pending)).Perm scene.committed

theorem Announced.move (h : Announced scene pending) (hmove : Move scene next pending pending') :
    Announced next pending' := by
  cases hmove with
  | idle _ _ htaken hcommitted hpending =>
    rw [Announced, htaken, hcommitted]
    exact ((hpending.append_left _).filterMap _).trans h
  | change hafter _ htaken hcommitted hpending =>
    rw [Announced, htaken, hcommitted]
    -- The announcement of the change names one revision, the one that it led to.
    have hall : (announcedRevisions (scene.taken ++ pending')).Perm
        (announcedRevisions (scene.taken ++ pending) ++ [next.tray.state.revision]) := by
      rw [← State.announcedRevisions_announcement hafter.differs, ← announcedRevisions_append,
        List.append_assoc]
      exact (hpending.append_left _).filterMap _
    exact hall.trans (h.append_right _)
  | take taken _ _ htaken hcommitted hpending =>
    rw [Announced, htaken, hcommitted, List.append_assoc, List.singleton_append]
    exact ((hpending.symm.append_left _).filterMap _).trans h

/-- What every move keeps. -/
structure Inv (scene : Scene) (pending : List Signal) : Prop where
  covered : ∀ part, Covered scene pending part
  announced : Announced scene pending

theorem Inv.move (h : Inv scene pending) (hmove : Move scene next pending pending') :
    Inv next pending' :=
  ⟨fun part => (h.covered part).move hmove, h.announced.move hmove⟩

theorem inv_start (state : State) : Inv (start state) [] :=
  ⟨fun _ => .inl rfl, .nil⟩

/-! ## Revisions -/

/-- What has happened between two scenes, with some number of changes. -/
structure Since (earlier later : Scene) (n : Nat) : Prop where
  committed : later.committed =
    earlier.committed ++ revisionsAfter earlier.tray.state.revision n
  revision : later.tray.state.revision = earlier.tray.state.revision + .ofNat n
  state : n = 0 → later.tray.state = earlier.tray.state

theorem Since.refl (scene : Scene) : Since scene scene 0 :=
  ⟨(List.append_nil _).symm, (UInt32.add_zero _).symm, fun _ => rfl⟩

theorem Since.move {earlier : Scene} {n : Nat} (h : Since earlier scene n)
    (hmove : Move scene next pending pending') : ∃ n', Since earlier next n' := by
  cases hmove with
  | idle htray _ _ hcommitted =>
    exact ⟨n, hcommitted.trans h.committed, htray ▸ h.revision, fun hn => htray.trans (h.state hn)⟩
  | take taken htray _ _ hcommitted =>
    exact ⟨n, hcommitted.trans h.committed, htray ▸ h.revision, fun hn => htray.trans (h.state hn)⟩
  | change hafter _ _ hcommitted =>
    have hrevision : next.tray.state.revision = earlier.tray.state.revision + .ofNat n + 1 := by
      rw [hafter.revision, h.revision]
    refine ⟨n + 1, ?_, ?_, nofun⟩
    · rw [hcommitted, h.committed, hrevision, revisionsAfter_succ_eq_append, List.append_assoc]
    · rw [hrevision, UInt32.ofNat_add, UInt32.add_assoc]
      rfl

/-- The changes between two scenes are counted by the revisions that they led to. -/
theorem Since.length_committed {earlier later : Scene} {n : Nat} (h : Since earlier later n) :
    later.committed.length = earlier.committed.length + n := by
  rw [h.committed, List.length_append, length_revisionsAfter]

/-! ## Scenes that have settled -/

/-- The signals in the queue of the tray. -/
def queue (scene : Scene) : List Signal := scene.tray.signals.getD []

/-- What is true of a scene that began in a state, once no call is in progress. -/
structure Settled (state : State) (scene : Scene) : Prop where
  /-- When all signals are taken, the copies are what would be read now. -/
  copies : scene.queue = [] → scene.copies = fresh scene.tray
  /-- Each revision that a change led to is announced, and nothing else is. -/
  announced : (announcedRevisions (scene.taken ++ scene.queue)).Perm scene.committed
  /-- The changes led from one revision to the next. -/
  committed : scene.committed = revisionsAfter state.revision scene.committed.length
  /-- As long as the changes are few, no revision is announced twice. -/
  once : scene.committed.length < UInt32.size →
    (announcedRevisions (scene.taken ++ scene.queue)).Nodup

theorem Pending.eq_queue {phases : List Tray.Phase} (h : Pending scene phases pending)
    (hquiet : scene.Quiet) : pending = scene.queue := by
  obtain ⟨hphases, queue, hqueue, rfl⟩ := h
  have howed : ∀ phase ∈ phases, phase.owed = [] := by
    intro phase hphase
    have hdone : phase.work = pure () :=
      hquiet _ (hphases ▸ List.mem_map.2 ⟨phase, hphase, rfl⟩)
    cases phase with
    | asked operation => rfl
    | changing change => rfl
    | announcing signals =>
      -- A call that still has a signal to send is not done.
      cases signals with
      | nil => rfl
      | cons signal signals => exact nomatch hdone
  rw [List.flatMap_eq_nil_iff.2 howed, List.append_nil, Scene.queue, hqueue]
  rfl

theorem Reaches.exists_since {earlier later : Scene} {phases : List Tray.Phase}
    (h : Reaches earlier later) (hpending : Pending earlier phases pending) :
    ∃ n, Since earlier later n := by
  obtain ⟨_, _, _, hsince⟩ :=
    h.keeps (P := fun later _ => ∃ n, Since earlier later n) hpending ⟨0, .refl earlier⟩
      fun _ _ _ _ ⟨_, hsince⟩ hmove => hsince.move hmove
  exact hsince

/-- Of every scene that is reached it is known what is pending, and that the moves have kept
    what they keep. -/
theorem Reaches.exists_inv (h : Reaches (start state) scene) :
    ∃ phases pending, Pending scene phases pending ∧ Inv scene pending :=
  h.keeps (pending_start state) (inv_start state) fun _ _ _ _ => Inv.move

/-- However the calls and the desktop take turns, a scene in which no call is in progress
    has settled. -/
theorem settled_of_reaches (h : Reaches (start state) scene) (hquiet : scene.Quiet) :
    Settled state scene := by
  obtain ⟨phases, pending, hpending, hinv⟩ := h.exists_inv
  obtain ⟨n, hsince⟩ := h.exists_since (pending_start state)
  -- Nothing had been committed at first, so the changes are the revisions that are now.
  obtain rfl : n = scene.committed.length := by
    rw [hsince.length_committed]
    exact (Nat.zero_add n).symm
  have hannounced := hinv.announced
  rw [hpending.eq_queue hquiet] at hannounced
  refine ⟨fun hempty => ?_, hannounced, hsince.committed, fun hfew => ?_⟩
  · -- Without pending signals a part can only be covered by being fresh.
    funext part
    rcases hinv.covered part with hfresh | ⟨signal, hmem, _⟩
    · exact hfresh
    · rw [hpending.eq_queue hquiet, hempty] at hmem
      exact nomatch hmem
  · rw [hannounced.nodup_iff, hsince.committed]
    exact nodup_revisionsAfter hfew _

/-- Two changes whose announcements overtake each other. -/
theorem settled_of_overtaking :
    ∃ scene, Reaches (start {}) scene ∧ scene.Quiet ∧ announcedRevisions scene.taken = [3, 2] ∧
      scene.copies = fresh scene.tray := by
  have hbegun : Reaches (start {}) _ :=
    .step (.step .refl (.begin _ (.setNetwork (some "office")))) (.begin _ (.setAutoConnect true))
  -- The network changes first, and is announced last.
  have hfirst := hbegun.step (.call _ (rfl : _ = [_] ++ _ :: []) (.step _ _ _))
  have hsecond := hfirst.step (.call _ (rfl : _ = [] ++ _ :: [_]) (.step _ _ _))
  have hsent := hsecond.step (.call _ (rfl : _ = [] ++ _ :: [_]) (.step _ _ _))
  have hdone := hsent.step (.call _ (rfl : _ = [_] ++ _ :: []) (.step _ _ _))
  have htaken := (hdone.step (.take _ rfl)).step (.take _ rfl)
  refine ⟨_, htaken, ?quiet, rfl, (settled_of_reaches htaken ?quiet).copies rfl⟩
  exact List.forall_mem_cons.2 ⟨rfl, List.forall_mem_cons.2 ⟨rfl, nofun⟩⟩

/-! ## Revisions and menus -/

/-- Whatever is asked about the menu, two states give the same answer. -/
structure SameMenu (s s' : State) : Prop where
  layout : ∀ parent depth names,
    Menu.layout? s parent depth names = Menu.layout? s' parent depth names
  group : ∀ ids names, Menu.group s ids names = Menu.group s' ids names
  property : ∀ id name, Menu.property? s id name = Menu.property? s' id name

theorem Since.eq_zero_of_revision_eq {earlier later : Scene} {n : Nat} (h : Since earlier later n)
    (hfew : n < UInt32.size) (hrevision : earlier.tray.state.revision = later.tray.state.revision) :
    n = 0 := by
  have hsame : earlier.tray.state.revision + .ofNat n = earlier.tray.state.revision + .ofNat 0 := by
    rw [← h.revision, ← hrevision]
    exact (UInt32.add_zero _).symm
  exact add_ofNat_inj hfew (by decide) hsame

/-- Between two moments with the same revision the menu has not changed, as long as there
    were not so many changes that the revision came round. -/
theorem sameMenu_of_revision_eq {earlier later : Scene} (hearlier : Reaches (start state) earlier)
    (hlater : Reaches earlier later)
    (hfew : later.committed.length < earlier.committed.length + UInt32.size)
    (hrevision : earlier.tray.state.revision = later.tray.state.revision) :
    SameMenu earlier.tray.state later.tray.state := by
  obtain ⟨phases, pending, hpending, _⟩ := hearlier.exists_inv
  obtain ⟨n, hsince⟩ := hlater.exists_since hpending
  -- With too few changes for the revision to come round, there was none at all.
  have hn : n < UInt32.size := by
    have hlength := hsince.length_committed
    omega
  rw [hsince.state (hsince.eq_zero_of_revision_eq hn hrevision)]
  exact ⟨fun _ _ _ => rfl, fun _ _ => rfl, fun _ _ => rfl⟩

/-- A call that finds nothing to do leaves the menu as it was. -/
theorem sameMenu_of_idle_call :
    ∃ later, Reaches (start {}) later ∧ later.tray.state.revision = 1 ∧
      SameMenu (start {}).tray.state later.tray.state := by
  have hbegun : Reaches (start {}) _ := .step .refl (.begin _ (.setNetwork none))
  have hlater := hbegun.step (.call _ (rfl : _ = [] ++ _ :: []) (.step _ _ _))
  exact ⟨_, hlater, rfl, sameMenu_of_revision_eq .refl hlater (by decide) rfl⟩

end VpnTray.Scene
