/-
  Every session being cancelled has its cancel command queued.

  A transaction gives the order if it queues the command together with the move
  to `cancelling` (`Orders`).  Every path to `cancelling` goes through
  `enqueueCancellation` but one: a Terminal's client cancels through
  `CheckpointTerminal`, which writes the state and queues nothing.  As long as no
  credential is spent on a session being cancelled (its old command would stand
  for the next cancellation), these checkpoints are the only exception.
-/
import SecondBox.DataPlane.Lifecycle

namespace SecondBox.DataPlane

open Relational Relational.Tx History

variable {t : Transaction} {d d' : DB} {k : ID}

/-- Every session in `cancelling` has its cancel command. -/
def DB.CancelQueued (d : DB) : Prop :=
  ∀ k s, d.sessions.get k = some s → s.state = .cancelling →
    (d.commands.get (cancelCommandID s.kind k)).isSome = true

/-- A session that `t` moves to `cancelling` gets its command from `t`. -/
def QueuedBy (d d' : DB) : Prop :=
  ∀ k s s', d.sessions.get k = some s → d'.sessions.get k = some s' → s.state ≠ .cancelling →
    s'.state = .cancelling →
      d.commands.get (cancelCommandID s.kind k) = none ∧
      (d'.commands.get (cancelCommandID s.kind k)).isSome = true

/-- The transaction `t` leaves every cancellation ordered, and orders those it starts. -/
def Orders (c : Config) (d : DB) (t : Transaction) : Prop :=
  (d.step c t).CancelQueued ∧ QueuedBy d (d.step c t)

/-- No credential is spent on a session that is being cancelled. -/
def Unrevived (d : DB) : Transaction → Prop
  | .consumeDirectPort i => (consumeDirectPortSession i).Commits d →
    ∀ s, d.sessions.get i.sessionID = some s → s.state ≠ .cancelling
  | _ => True

/-- No Terminal client cancels a pending or running session through a checkpoint. -/
def Commanded (c : Config) (d : DB) : Transaction → Prop
  | .checkpointTerminal tenantRef subjectRef id i now => i.cancel = true → i.terminal = none →
    (checkpointTerminal c tenantRef subjectRef id i now).Commits d →
      ∀ s, d.sessions.get id = some s → s.state.live = false
  | _ => True

/-! ## In views -/

/-- The command is queued while the session is cancelling, and not before. -/
structure View.Ordered (v : View) : Prop where
  cancelling : v.state? = some .cancelling → v.queued = true
  live : v.live = true → v.queued = false

theorem queued_iff (hd : d.Wf) {s : Session} (hs : d.sessions.get k = some s) :
    (d.view k).queued = (d.commands.get (cancelCommandID s.kind k)).isSome := by
  rw [← hd.cancelID_eq hs]
  rfl

theorem CancelQueued.of_views (hd : d.Wf) (h : ∀ k, (d.view k).Ordered) : d.CancelQueued := by
  intro k s hs hst
  rw [← queued_iff hd hs]
  exact (h k).cancelling (by rw [view_state? hs, hst])

/-- What the two guards say of a view. -/
structure View.Commanded (t : Transaction) (k : ID) (v : View) : Prop where
  unrevived : ∀ i, t = .consumeDirectPort i → i.sessionID = k → v.state? ≠ some .cancelling
  noClient : ∀ tenantRef subjectRef i now, t = .checkpointTerminal tenantRef subjectRef k i now →
    i.cancel = true →
    i.terminal = none → v.live = false

theorem View.live_or_cancelling {v : View} (h : v.active = true) :
    v.live = true ∨ v.state? = some .cancelling := by
  simp only [View.active, Option.any_eq_true] at h
  obtain ⟨st, hst, ha⟩ := h
  cases st <;> simp_all [View.live, SessionState.active, SessionState.live]

theorem Move.ordered {v v' : View} (hm : Move t k v v') (hw : v.Wf k) (ho : v.Ordered)
    (hg : v.Commanded t k) :
    v'.Ordered := by
  have hrunning : v.live = true → (v.setState .running).Ordered :=
    fun hl => ⟨by simp, fun _ => ho.live hl⟩
  have hended : ∀ st (v₁ : View), SessionState.active st = false →
      v₁.state? = (v.setState st).state? → v₁.Ordered := by
    intro st v₁ hst hv₁
    constructor
    · rw [hv₁]
      cases st <;> simp_all [SessionState.active]
    · intro hl
      have hlive : v₁.live = (v.setState st).live := by simp only [View.live, hv₁]
      simp [hlive, SessionState.live_of_active hst] at hl
  cases hm with
  | stay => exact ho
  | admitSession => exact ⟨by simp [View.state?], fun _ => rfl⟩
  | admitPort => exact ⟨by simp [View.state?], fun _ => rfl⟩
  | start h => exact hrunning (by simp [View.live, h, SessionState.live])
  | cancel h => exact ⟨fun _ => rfl, by simp [SessionState.live]⟩
  | closePort h => exact ⟨fun _ => rfl, by simp [SessionState.live]⟩
  | finish st ps q ha hst hps hq => exact hended st _ hst rfl
  | delete h => exact ⟨by simp [View.state?], by simp [View.live, View.state?]⟩
  | consumeDirect i ht hk hp =>
    rcases View.live_or_cancelling (hw.opened hp) with hl | hst
    · exact hrunning hl
    · exact absurd hst (hg.unrevived i ht hk)
  | clientCancel tenantRef subjectRef i now ht hc hn ha =>
    -- the client cannot have cancelled a live session
    rcases View.live_or_cancelling ha with hl | hst
    · rw [hg.noClient tenantRef subjectRef i now ht hc hn] at hl
      cases hl
    · exact ⟨fun _ => ho.cancelling hst, by simp [SessionState.live]⟩
  | release tenantRef subjectRef now ht p hp hown => exact ⟨ho.cancelling, ho.live⟩

theorem Move.queues {v v' : View} (hm : Move t k v v') (hw : v.Wf k) (ho : v.Ordered)
    (hg : v.Commanded t k) {st : SessionState} (hst : v.state? = some st) (hne : st ≠ .cancelling)
    (hst' : v'.state? = some .cancelling) :
    v.queued = false ∧ v'.queued = true := by
  have hlive : v.active = true → v.live = true := by
    intro ha
    rcases View.live_or_cancelling ha with hl | hc
    · exact hl
    · rw [hst, Option.some_inj] at hc
      exact absurd hc hne
  cases hm with
  | stay =>
    rw [hst, Option.some_inj] at hst'
    exact absurd hst' hne
  | admitSession => simp [View.state?] at hst'
  | admitPort => simp [View.state?] at hst'
  | start h => simp [h] at hst'
  | cancel h => exact ⟨ho.live h, rfl⟩
  | closePort h => exact ⟨ho.live (hlive (hw.opened h)), rfl⟩
  | finish st₁ ps q ha hst₁ hps hq =>
    have hstate : (v.setState st₁).state? = some .cancelling := hst'
    simp only [View.setState_state?, hst, Option.map_some, Option.some_inj] at hstate
    rw [hstate] at hst₁
    cases hst₁
  | delete => simp [View.state?] at hst'
  | consumeDirect i ht hk hp => simp [hst] at hst'
  | clientCancel tenantRef subjectRef i now ht hc hn ha =>
    have hl := hlive ha
    rw [hg.noClient tenantRef subjectRef i now ht hc hn] at hl
    cases hl
  | release tenantRef subjectRef now ht p hp hown =>
    rw [View.setPort_state?, hst, Option.some_inj] at hst'
    exact absurd hst' hne

/-! ## Steps -/

theorem Commanded.view {c : Config} (hu : Unrevived d t) (h : Commanded c d t)
    (hc : (t.tx c).Commits d) (k : ID) :
    (d.view k).Commanded t k := by
  constructor
  · rintro i rfl rfl hst
    obtain ⟨s, hs, hcancelling⟩ : ∃ s, d.sessions.get i.sessionID = some s ∧
        s.state = .cancelling := by
      simpa [View.state?, DB.view, Session.view] using hst
    exact hu hc s hs hcancelling
  · rintro tenantRef subjectRef i now rfl hcancel hnone
    cases hs : d.sessions.get k with
    | none => simp [View.live, View.state?, DB.view, hs]
    | some s =>
      rw [view_live hs]
      exact h hcancel hnone hc s hs

theorem step_ordered (c : Config) (hd : d.Wf) (ho : ∀ k, (d.view k).Ordered) (hf : Fresh d t)
    (hu : Unrevived d t) (hg : Commanded c d t) :
    (∀ k, ((d.step c t).view k).Ordered) ∧ QueuedBy d (d.step c t) := by
  by_cases hcommits : (t.tx c).Commits d
  · have hviews := Commanded.view hu hg hcommits
    refine ⟨fun k => (step_moves c hd hf k).ordered (hd k) (ho k) (hviews k),
      fun k s s' hs hs' hne hst' => ?_⟩
    have hqueues := (step_moves c hd hf k).queues (hd k) (ho k) (hviews k) (view_state? hs) hne
      (by rw [view_state? hs', hst'])
    have hkind : s'.kind = s.kind :=
      congrArg Owner.kind ((step_moves c hd hf k).owner (view_session hs) (view_session hs'))
    rw [queued_iff hd hs, queued_iff (step_wf c hd hf) hs', hkind] at hqueues
    exact ⟨by simpa using hqueues.1, hqueues.2⟩
  · have hstep : d.step c t = d := commit_of_not_commits hcommits
    rw [hstep]
    refine ⟨ho, fun k s s' hs hs' hne hst' => ?_⟩
    rw [hs] at hs'
    cases hs'
    exact absurd hst' hne

/-- The client's cancellation of a live session leaves it without a command. -/
theorem checkpointTerminal_commanded (c : Config) (hd : d.Wf) (ho : ∀ k, (d.view k).Ordered)
    {tenantRef subjectRef id : ID} {i : TerminalCheckpoint} {now : Time}
    (h : (d.step c (.checkpointTerminal tenantRef subjectRef id i now)).CancelQueued) :
    Commanded c d (.checkpointTerminal tenantRef subjectRef id i now) := by
  intro hcancel hnone hcommits s hs
  obtain ⟨-, s₀, hs₀, -, hstep⟩ := (ensures_checkpointTerminal hnone).commit hcommits
  rw [show d.step c (.checkpointTerminal tenantRef subjectRef id i now) = _ from hstep] at h
  have hget : (d.setSession id fun row => (i.counted row).checkpointCancel i.cancel).sessions.get
      id = some ((i.counted s).checkpointCancel i.cancel) := by simp [DB.setSession, hs]
  have hqueued := h id _ hget (by simp [Session.checkpointCancel, hcancel])
  by_contra hlive
  have hnot := (ho id).live (by rw [view_live hs]; simpa using hlive)
  rw [queued_iff hd hs] at hnot
  have hkind : ((i.counted s).checkpointCancel i.cancel).kind = s.kind :=
    congrArg Owner.kind (Session.checkpointCancel_owner (i.counted s) i.cancel)
  rw [hkind] at hqueued
  exact absurd (hnot.symm.trans hqueued) (by simp)

theorem orders_iff (c : Config) (hd : d.Wf) (ho : ∀ k, (d.view k).Ordered) (hf : Fresh d t)
    (hu : Unrevived d t) :
    Orders c d t ↔ Commanded c d t := by
  constructor
  · rintro ⟨hqueued, -⟩
    cases t with
    | checkpointTerminal tenantRef subjectRef id i now =>
      exact checkpointTerminal_commanded c hd ho hqueued
    | _ => trivial
  · intro hg
    obtain ⟨hordered, hby⟩ := step_ordered c hd ho hf hu hg
    exact ⟨CancelQueued.of_views (step_wf c hd hf) hordered, hby⟩

/-! ## Histories -/

/-- **Cancellations are ordered, each by the transaction that starts it, in
    exactly the histories in which no Terminal client cancels a live session
    through a checkpoint.** -/
theorem orders_along_iff (c : Config) {d₀ : DB} (h₀ : d₀.Blank) (ts : List Transaction)
    (hf : Along (DB.step c) (fun d t => Fresh d t ∧ Unrevived d t) d₀ ts) :
    Along (DB.step c) (Orders c) d₀ ts ↔ Along (DB.step c) (Commanded c) d₀ ts := by
  refine along_iff (I := fun d => d.Wf ∧ ∀ k, (d.view k).Ordered) ?_ ?_ ⟨h₀.wf, fun k => ?_⟩ hf
  · rintro d t ⟨hd, ho⟩ ⟨hf, hu⟩
    exact orders_iff c hd ho hf hu
  · rintro d t ⟨hd, ho⟩ ⟨hf, hu⟩ horders
    exact ⟨step_wf c hd hf, (step_ordered c hd ho hf hu ((orders_iff c hd ho hf hu).1 horders)).1⟩
  · rw [h₀.view_eq]
    exact ⟨nofun, nofun⟩

/-! ## A Terminal's client cancels -/

open Demo

namespace Demo

/-- A Terminal session. -/
def openTerminal (id : ID) : Admission where
  id := id
  streamID := "stream1"
  tenantRef := "acme"
  subjectRef := "ada"
  sandboxID := "box"
  leaseID := "lease1"
  generation := 1
  kind := .terminal
  operation := "terminal"
  requestID := "req1"
  requestHash := "hash"
  deadlineAt := 500000
  execOpen := some { allocatePty := true, streaming := true, ptyRows := 24, ptyColumns := 80 }
  deferResponseCredit := true
  useProfileStreamWindow := true
  credentialDigest := List.replicate 32 0
  now := 1

/-- A checkpoint without a terminal. -/
def checkpoint (cancel : Bool) : TerminalCheckpoint where
  attachmentID := "att1"
  nextClientSequence := 0
  requestBytes := 0
  responseCredit := 0
  inboundBytes := 0
  nextInboundSequence := 1
  cancel := cancel

/-- A Terminal with a client. -/
def attached : List Transaction :=
  [.admitDataPlane (openTerminal "term1"), .acquireTerminal "acme" "ada" "box" "term1" 1 "att1" 2]

end Demo

/-- The client of an attached Terminal cancels it. -/
def hangingUp : List Transaction :=
  attached ++ [.checkpointTerminal "acme" "ada" "term1" (checkpoint true) 3]

/-- A cancelling session is revived and cancelled again: the old command stands for the new one. -/
def recancelling : List Transaction :=
  reviving ++ [.cancel "acme" "ada" "port1" "subject closing" 4]

theorem hangingUp_not_ordered :
    (Along (DB.step config) (fun d t => Fresh d t ∧ Unrevived d t) start hangingUp ∧
      ¬Along (DB.step config) (Orders config) start hangingUp) ∧
    Along (DB.step config) (fun d t => Fresh d t ∧ Commanded config d t) start recancelling ∧
      ¬Along (DB.step config) (Orders config) start recancelling := by
  have later : ∀ {d : DB} {t : Transaction}, t.mints = none → Fresh d t := fresh_of_mints_none
  refine ⟨⟨⟨⟨start_blank.fresh _, trivial⟩, ⟨later rfl, trivial⟩, ⟨later rfl, trivial⟩, trivial⟩,
    ?_⟩, ⟨⟨start_blank.fresh _, trivial⟩, ⟨later rfl, trivial⟩, ⟨later rfl, trivial⟩,
    ⟨later rfl, trivial⟩, trivial⟩, ?_⟩
  · rintro ⟨-, -, ⟨hqueued, -⟩, -⟩
    have hstate : ((after (DB.step config) start hangingUp).sessions.get "term1").map
        (fun s => (s.kind, s.state)) = some (.terminal, .cancelling) := by decide +kernel
    have hcommand : (after (DB.step config) start hangingUp).commands.get (.cancel "term1") =
      none := by decide +kernel
    simp only [Option.map_eq_some_iff, Prod.mk.injEq] at hstate
    obtain ⟨s, hs, hkind, hst⟩ := hstate
    have hrow := hqueued "term1" s hs hst
    rw [hkind] at hrow
    have hrow : ((after (DB.step config) start hangingUp).commands.get (.cancel "term1")).isSome =
      true := hrow
    rw [hcommand] at hrow
    cases hrow
  · rintro ⟨-, -, -, ⟨-, hby⟩, -⟩
    have hrunning : ((after (DB.step config) start reviving).sessions.get "port1").map
        (fun s => (s.kind, s.state)) = some (.port, .running) := by decide +kernel
    have hstate : stateOf (after (DB.step config) start recancelling) "port1" =
      some .cancelling := by decide +kernel
    have hcommand : ((after (DB.step config) start reviving).commands.get (.portCancel "port1")).isSome = true := by
      decide +kernel
    simp only [stateOf, Option.map_eq_some_iff, Prod.mk.injEq] at hrunning hstate
    obtain ⟨s, hs, hkind, hst⟩ := hrunning
    obtain ⟨s', hs', hst'⟩ := hstate
    have hrow := (hby "port1" s s' hs hs' (by simp [hst]) hst').1
    rw [hkind] at hrow
    have hrow : (after (DB.step config) start reviving).commands.get (.portCancel "port1") = none :=
      hrow
    rw [hrow] at hcommand
    cases hcommand

/-- The same Terminal, running, and cancelled through its own route after a checkpoint. -/
def cancelling : List Transaction :=
  attached ++ [.consumeDirect (spend "term1"),
    .checkpointTerminal "acme" "ada" "term1" (checkpoint false) 4,
    .cancel "acme" "ada" "term1" "caller cancelled" 5]

theorem cancelling_ordered : Along (DB.step config) (Orders config) start cancelling ∧
    stateOf (after (DB.step config) start cancelling) "term1" = some .cancelling := by
  have later : ∀ {d : DB} {t : Transaction}, t.mints = none → Fresh d t := fresh_of_mints_none
  refine ⟨(orders_along_iff config start_blank cancelling ?_).2 ⟨trivial, trivial, trivial, nofun,
    trivial, trivial⟩,
    by decide +kernel⟩
  exact ⟨⟨start_blank.fresh _, trivial⟩, ⟨later rfl, trivial⟩, ⟨later rfl, trivial⟩,
    ⟨later rfl, trivial⟩, ⟨later rfl, trivial⟩, trivial⟩

end SecondBox.DataPlane
