/-
  Closing direct sessions while their connections are being served.

  A goroutine serves each direct connection (`serveDirectTypedConnection`): it
  waits for the session its credential names, claims it, consumes the
  credential, binds its cancel function to the session, and then reads and
  handles frames.  Fences, cancellations, drains and the loss of the control
  connection close sessions meanwhile (`closeMatching`).  Each step here is one
  critical section of the source, under the mutex of the registry or of the
  session, so a list of steps is any interleaving.
-/
import SecondBox.Base.History
import SecondBox.Runner.Operations

namespace SecondBox.Runner.Direct

open Relational History

/-- `directDataPlaneSession`; `cancel` names the connection whose cancel function is bound to it. -/
structure Session where
  digest : Bytes
  identity : Identity
  kind : SessionKind
  claimed : Bool := false
  consumed : Bool := false
  opened : Bool := false
  closed : Bool := false
  cancel : Option ℕ := none
deriving DecidableEq

/-- Where the goroutine of a connection stands. -/
inductive Phase where
  /-- `await` has returned the session -/
  | found
  | claimed
  | consumed
  /-- the cancel function is bound -/
  | bound
  /-- in the receive loop, with no message -/
  | reading (first : Bool)
  /-- a message has been read and not handled yet -/
  | holding (first : Bool)
  /-- within `handleCommand` -/
  | handling
  | ended
deriving DecidableEq

/-- The goroutine has a message it has read. -/
def Phase.busy : Phase → Bool
  | .holding _ | .handling => true
  | _ => false

/-- A connection that has found its session. -/
structure Connection where
  session : ℕ
  phase : Phase := .found
  socketOpen : Bool := true

/-- The sessions and connections of a Runner, and what `closeMatching` still has to do:
    sessions that were selected and are not marked yet, and connections to be cancelled. -/
structure Plane where
  sessions : Table ℕ Session := .empty
  registry : Table Bytes ℕ := .empty
  connections : Table ℕ Connection := .empty
  selected : List ℕ := []
  cancelling : List ℕ := []

/-- What a direct connection makes the Runner do. -/
inductive Served where
  | handled (session : ℕ)
  | started (session : ℕ)
deriving DecidableEq

/-- The session served. -/
def Served.session : Served → ℕ
  | .handled sid => sid
  | .started sid => sid

/-- The steps of connections and closers. -/
inductive Step where
  /-- `registry.add` of a new session -/
  | add (sid : ℕ) (digest : Bytes) (identity : Identity) (kind : SessionKind)
  /-- `registry.await` of a new connection finds a session -/
  | await (c : ℕ) (digest : Bytes)
  /-- the checks of the session and `claim`; `admits` is what the checks say -/
  | claim (c : ℕ) (admits : Bool)
  /-- the credential is consumed, unless it was before; `admitted` is what the control plane says -/
  | consume (c : ℕ) (admitted : Bool)
  | bind (c : ℕ)
  /-- the verdict is written, and the receive loop starts -/
  | serve (c : ℕ)
  | read (c : ℕ)
  /-- the message is handled; `valid` is what `validateDirectFirstMessage` says -/
  | handle (c : ℕ) (valid : Bool)
  /-- `handleCommand` returns; it may have started an operation -/
  | returns (c : ℕ) (starts ok : Bool)
  /-- a deadline, a write, a read or a decoding fails -/
  | fails (c : ℕ)
  /-- `closeMatching` selects sessions and takes them out of the registry -/
  | closeMatching (selects : Session → Bool)
  /-- `closeMatching` marks a selected session and reads its cancel function -/
  | mark (sid : ℕ)
  /-- `closeMatching` calls the cancel function of a connection -/
  | cancel (c : ℕ)

namespace Plane

/-- Replace a session. -/
def setSession (p : Plane) (sid : ℕ) (s : Session) : Plane :=
  { p with sessions := p.sessions.put sid s }

/-- Move a connection to `phase`. -/
def setPhase (p : Plane) (c : ℕ) (conn : Connection) (phase : Phase) : Plane :=
  { p with connections := p.connections.put c { conn with phase } }

/-- The connection ends, with what its goroutine has deferred so far. -/
def ends (p : Plane) (c : ℕ) (conn : Connection) (s : Session) : Plane :=
  let p := p.setPhase c conn .ended
  match conn.phase with
  | .found => p
  | .claimed => p.setSession conn.session { s with claimed := false }
  | _ =>
    if s.kind = .pty then p.setSession conn.session { s with claimed := false }
    else { p with registry := p.registry.deleteWhere fun digest _ => digest == s.digest }

/-- The next step of the goroutine of connection `c`, which depends on its phase and its session. -/
def advance (p : Plane) (c : ℕ) (f : Connection → Session → Plane × List Served) :
    Plane × List Served :=
  match p.connections.get c with
  | none => (p, [])
  | some conn =>
    match p.sessions.get conn.session with
    | none => (p, [])
    | some s => f conn s

/-- One step, and what is served. -/
def step (p : Plane) : Step → Plane × List Served
  | .add sid digest identity kind =>
    match p.sessions.get sid, p.registry.get digest with
    | none, none =>
      ({ p with
          sessions := p.sessions.put sid { digest, identity, kind }
          registry := p.registry.put digest sid }, [])
    | _, _ => (p, [])
  | .await c digest =>
    match p.connections.get c, p.registry.get digest with
    | none, some sid => ({ p with connections := p.connections.put c { session := sid } }, [])
    | _, _ => (p, [])
  | .claim c admits => p.advance c fun conn s =>
    if conn.phase ≠ .found then (p, [])
    else if admits && !s.claimed && !s.closed then
      ((p.setPhase c conn .claimed).setSession conn.session { s with claimed := true }, [])
    else (p.ends c conn s, [])
  | .consume c admitted => p.advance c fun conn s =>
    if conn.phase ≠ .claimed then (p, [])
    else if s.consumed || admitted then
      ((p.setPhase c conn .consumed).setSession conn.session { s with consumed := true }, [])
    else (p.ends c conn s, [])
  | .bind c => p.advance c fun conn s =>
    if conn.phase ≠ .consumed then (p, [])
    else ((p.setPhase c conn .bound).setSession conn.session { s with cancel := some c }, [])
  | .serve c => p.advance c fun conn _ =>
    if conn.phase ≠ .bound then (p, []) else (p.setPhase c conn (.reading true), [])
  | .read c => p.advance c fun conn s =>
    match conn.phase with
    | .reading first =>
      if conn.socketOpen then (p.setPhase c conn (.holding first), []) else (p.ends c conn s, [])
    | _ => (p, [])
  | .handle c valid => p.advance c fun conn s =>
    match conn.phase with
    | .holding first =>
      if first && !valid then (p.ends c conn s, [])
      else
        ((p.setPhase c conn .handling).setSession conn.session { s with opened := s.opened || first },
          [.handled conn.session])
    | _ => (p, [])
  | .returns c starts ok => p.advance c fun conn s =>
    if conn.phase ≠ .handling then (p, [])
    else (if ok then p.setPhase c conn (.reading false) else p.ends c conn s,
      if starts then [.started conn.session] else [])
  | .fails c => p.advance c fun conn s =>
    match conn.phase with
    | .claimed | .bound | .reading _ | .holding _ => (p.ends c conn s, [])
    | _ => (p, [])
  | .closeMatching selects =>
    let chosen := fun (_ : Bytes) sid => (p.sessions.get sid).any selects
    ({ p with
        registry := p.registry.deleteWhere chosen
        selected :=
          p.selected ++ (p.registry.rows.filter fun x => chosen x.1 x.2).map Prod.snd }, [])
  | .mark sid =>
    match p.sessions.get sid with
    | some s =>
      if sid ∈ p.selected then
        ({ p with
            sessions := p.sessions.put sid { s with closed := true }
            selected := p.selected.erase sid
            cancelling := p.cancelling ++ s.cancel.toList }, [])
      else (p, [])
    | none => (p, [])
  | .cancel c =>
    match p.connections.get c with
    | some conn =>
      if c ∈ p.cancelling then
        ({ p with
            connections := p.connections.put c { conn with socketOpen := false }
            cancelling := p.cancelling.erase c }, [])
      else (p, [])
    | none => (p, [])

end Plane

/-- A Runner with what its direct connections have made it do. -/
structure Trace where
  plane : Plane := {}
  served : List Served := []

/-- One step of a trace. -/
def Trace.step (t : Trace) (a : Step) : Trace :=
  let r := t.plane.step a
  ⟨r.1, t.served ++ r.2⟩

/-! ## What a step can do -/

/-- The effect of a step.  `go` is a step of the goroutine that serves `c`: it
    changes its own connection and its session, and may take sessions out of
    the registry. -/
inductive Effect (p : Plane) : Plane → List Served → Prop where
  | none : Effect p p []
  | add {sid : ℕ} {digest : Bytes} {s : Session} (hsid : p.sessions.get sid = none)
      (hclosed : s.closed = false)
      (hcancel : s.cancel = none) :
      Effect p { p with sessions := p.sessions.put sid s, registry := p.registry.put digest sid } []
  | await {c sid : ℕ} {digest : Bytes} (hc : p.connections.get c = none)
      (hsid : p.registry.get digest = some sid) :
      Effect p { p with connections := p.connections.put c { session := sid } } []
  | go {p' : Plane} {c : ℕ} {conn conn' : Connection} {s s' : Session} {evs : List Served}
      (hc : p.connections.get c = some conn) (hs : p.sessions.get conn.session = some s)
      (hlive : conn.phase ≠ .ended)
      (hsession : conn'.session = conn.session) (hsocket : conn'.socketOpen = conn.socketOpen)
      (hclosed : s'.closed = s.closed) (hcancel : s'.cancel = s.cancel ∨ s'.cancel = some c)
      (hfound : conn.phase = .found → s.claimed = false ∧ s.closed = false ∨ conn'.phase = .ended ∧
      s' = s ∧ evs = [])
      (hread : conn.socketOpen = false → conn.phase.busy = false → conn'.phase.busy = false)
      (hevs : ∀ ev ∈ evs, ev.session = conn.session)
      (hconnections : ∀ k, p'.connections.get k = if k = c then some conn' else p.connections.get k)
      (hsessions : ∀ k, p'.sessions.get k = if k = conn.session then some s' else p.sessions.get k)
      (hregistry : ∀ d sid, p'.registry.get d = some sid → p.registry.get d = some sid)
      (hselected : p'.selected = p.selected) (hcancelling : p'.cancelling = p.cancelling) :
      Effect p p' evs
  | select (selects : Session → Bool) : Effect p (p.step (.closeMatching selects)).1 []
  | mark {sid : ℕ} {s : Session} (hs : p.sessions.get sid = some s) (hsid : sid ∈ p.selected) :
      Effect p { p with
        sessions := p.sessions.put sid { s with closed := true }
        selected := p.selected.erase sid
        cancelling := p.cancelling ++ s.cancel.toList } []
  | cancel {c : ℕ} {conn : Connection} (hc : p.connections.get c = some conn)
      (hmem : c ∈ p.cancelling) :
      Effect p { p with
        connections := p.connections.put c { conn with socketOpen := false }
        cancelling := p.cancelling.erase c } []

section Effects
variable {p : Plane} {c : ℕ} {conn : Connection} {s s' : Session} {evs : List Served}

/-- The goroutine of `c` goes on to another phase. -/
theorem effect_setPhase (hc : p.connections.get c = some conn)
    (hs : p.sessions.get conn.session = some s) (hlive : conn.phase ≠ .ended)
    (hfound : conn.phase = .found → s.claimed = false ∧ s.closed = false) (phase : Phase)
    (hread : conn.phase.busy = false → phase.busy = false) (hclosed : s'.closed = s.closed)
    (hcancel : s'.cancel = s.cancel ∨ s'.cancel = some c)
    (hevs : ∀ ev ∈ evs, ev.session = conn.session) :
    Effect p ((p.setPhase c conn phase).setSession conn.session s') evs := by
  have hconn : ({ conn with phase } : Connection).session = conn.session := rfl
  refine .go hc hs hlive hconn rfl hclosed hcancel (fun h => .inl (hfound h)) (fun _ => hread) hevs
    ?_ ?_ (fun _ _ h => h) rfl rfl
  · exact fun k => p.connections.get_put c k _
  · exact fun k => p.sessions.get_put conn.session k s'

theorem get_self {k : ℕ} (hs : p.sessions.get conn.session = some s) :
    p.sessions.get k = if k = conn.session then some s else p.sessions.get k := by
  split
  · next h => rw [h, hs]
  · rfl

theorem effect_phase (hc : p.connections.get c = some conn)
    (hs : p.sessions.get conn.session = some s) (hlive : conn.phase ≠ .ended)
    (hfound : conn.phase ≠ .found) {phase : Phase}
    (hread : conn.socketOpen = false → phase.busy = false)
    (hevs : ∀ ev ∈ evs, ev.session = conn.session) :
    Effect p (p.setPhase c conn phase) evs := by
  have hconn : ({ conn with phase } : Connection).session = conn.session := rfl
  refine .go hc hs hlive hconn rfl rfl (.inl rfl) (fun h => absurd h hfound)
    (fun h _ => hread h) hevs ?_
    (fun k => get_self hs) (fun _ _ h => h) rfl rfl
  exact fun k => p.connections.get_put c k _

theorem effect_ends (hc : p.connections.get c = some conn)
    (hs : p.sessions.get conn.session = some s) (hlive : conn.phase ≠ .ended)
    (hevs : ∀ ev ∈ evs, ev.session = conn.session) (hfound : conn.phase = .found → evs = []) :
    Effect p (p.ends c conn s) evs := by
  have hconn : ({ conn with phase := .ended } : Connection).session = conn.session := rfl
  have hconnections : ∀ k, (p.setPhase c conn .ended).connections.get k =
      if k = c then some { conn with phase := .ended } else p.connections.get k :=
        fun k => p.connections.get_put c k _
  have hregistry : ∀ (q : Bytes → ℕ → Bool) (d : Bytes) (sid : ℕ),
      (p.registry.deleteWhere q).get d = some sid →
      p.registry.get d = some sid := by
    intro q d sid h
    rw [Table.get_deleteWhere, Option.filter_eq_some_iff] at h
    exact h.1
  -- only a goroutine that has claimed the session releases it
  have hreleased : conn.phase ≠ .found →
      Effect p ((p.setPhase c conn .ended).setSession conn.session { s with claimed := false })
      evs :=
    fun hne => effect_setPhase hc hs hlive (fun h => absurd h hne) .ended (fun _ => rfl) rfl
      (.inl rfl) hevs
  rw [Plane.ends]
  split
  · next hph =>
    exact .go hc hs hlive hconn rfl rfl (.inl rfl) (fun _ => .inr ⟨rfl, rfl, hfound hph⟩)
      (fun _ _ => rfl) hevs
      hconnections (fun k => get_self hs) (fun _ _ h => h) rfl rfl
  · next hph => exact hreleased (by simp [hph])
  · next hnot _ =>
    split
    · exact hreleased hnot
    · exact .go hc hs hlive hconn rfl rfl (.inl rfl) (fun h => absurd h hnot) (fun _ _ => rfl)
        hevs hconnections
        (fun k => get_self hs) (hregistry _) rfl rfl

theorem effect_advance {f : Connection → Session → Plane × List Served}
    (h : ∀ conn s, p.connections.get c = some conn → p.sessions.get conn.session = some s →
      Effect p (f conn s).1 (f conn s).2) : Effect p (p.advance c f).1 (p.advance c f).2 := by
  rw [Plane.advance]
  split
  · exact .none
  next conn hc =>
  split
  · exact .none
  next s hs => exact h conn s hc hs

theorem no_events {conn : Connection} : ∀ ev ∈ ([] : List Served), ev.session = conn.session :=
  fun _ h => by cases h

theorem step_effect (p : Plane) (a : Step) : Effect p (p.step a).1 (p.step a).2 := by
  cases a with
  | add sid digest identity kind =>
    rw [Plane.step]
    split
    · next hsid _ => exact .add hsid rfl rfl
    · exact .none
  | await c digest =>
    rw [Plane.step]
    split
    · next hc hsid => exact .await hc hsid
    · exact .none
  | claim c admits =>
    refine effect_advance fun conn s hc hs => ?_
    split
    · exact .none
    next hphase =>
    rw [not_not] at hphase
    have hlive : conn.phase ≠ .ended := by simp [hphase]
    split
    · next hclaim =>
      simp only [Bool.and_eq_true, Bool.not_eq_true'] at hclaim
      exact effect_setPhase hc hs hlive (fun _ => ⟨hclaim.1.2, hclaim.2⟩) .claimed (fun _ => rfl)
        rfl (.inl rfl) no_events
    · exact effect_ends hc hs hlive no_events fun _ => rfl
  | consume c admitted =>
    refine effect_advance fun conn s hc hs => ?_
    split
    · exact .none
    next hphase =>
    rw [not_not] at hphase
    have hlive : conn.phase ≠ .ended := by simp [hphase]
    split
    · exact effect_setPhase hc hs hlive (fun h => by simp [hphase] at h) .consumed (fun _ => rfl)
        rfl (.inl rfl) no_events
    · exact effect_ends hc hs hlive no_events fun _ => rfl
  | bind c =>
    refine effect_advance fun conn s hc hs => ?_
    split
    · exact .none
    next hphase =>
    rw [not_not] at hphase
    exact effect_setPhase hc hs (by simp [hphase]) (fun h => by simp [hphase] at h) .bound
      (fun _ => rfl) rfl (.inr rfl)
      no_events
  | serve c =>
    refine effect_advance fun conn s hc hs => ?_
    split
    · exact .none
    next hphase =>
    rw [not_not] at hphase
    exact effect_phase hc hs (by simp [hphase]) (by simp [hphase]) (fun _ => rfl) no_events
  | read c =>
    refine effect_advance fun conn s hc hs => ?_
    split
    · next first hphase =>
      split
      · next hopen => exact effect_phase hc hs (by simp [hphase]) (by simp [hphase]) (by simp [hopen]) no_events
      · exact effect_ends hc hs (by simp [hphase]) no_events fun _ => rfl
    · exact .none
  | handle c valid =>
    refine effect_advance fun conn s hc hs => ?_
    split
    · next first hphase =>
      split
      · exact effect_ends hc hs (by simp [hphase]) no_events fun _ => rfl
      · refine effect_setPhase hc hs (by simp [hphase]) (fun h => by simp [hphase] at h) .handling
          (by simp [hphase, Phase.busy]) rfl (.inl rfl) ?_
        intro ev hev
        rw [List.mem_singleton.1 hev]
        rfl
    · exact .none
  | returns c starts ok =>
    refine effect_advance fun conn s hc hs => ?_
    split
    · exact .none
    next hphase =>
    rw [not_not] at hphase
    have hevs : ∀ ev ∈ (if starts then [Served.started conn.session] else []),
        ev.session = conn.session := by
      intro ev hev
      split at hev
      · rw [List.mem_singleton.1 hev]
        rfl
      · cases hev
    cases ok with
    | true => exact effect_phase hc hs (by simp [hphase]) (by simp [hphase]) (fun _ => rfl) hevs
    | false => exact effect_ends hc hs (by simp [hphase]) hevs fun h => by simp [hphase] at h
  | fails c =>
    refine effect_advance fun conn s hc hs => ?_
    split
    case h_5 => exact .none
    all_goals next hphase => exact effect_ends hc hs (by simp [hphase]) no_events fun _ => rfl
  | closeMatching selects => exact .select selects
  | mark sid =>
    rw [Plane.step]
    split
    · next s hs =>
      split
      · next hsid => exact .mark hs hsid
      · exact .none
    · exact .none
  | cancel c =>
    rw [Plane.step]
    split
    · next conn hc =>
      split
      · next hmem => exact .cancel hc hmem
      · exact .none
    · exact .none

end Effects

/-! ## A session that no connection can serve any more -/

/-- A connection is being served for the session, or is about to claim it. -/
def Plane.Serving (p : Plane) (sid : ℕ) : Prop :=
  ∃ c conn s, p.connections.get c = some conn ∧ conn.session = sid ∧ p.sessions.get sid = some s ∧
    conn.phase ≠ .ended ∧ (conn.phase = .found → s.claimed = false)

/-- The session is out of the registry and no connection serves it: those that
    have found it will be refused, for it is claimed. -/
structure Plane.Unserved (sid : ℕ) (p : Plane) : Prop where
  known : ∃ s, p.sessions.get sid = some s
  unregistered : ∀ d, p.registry.get d ≠ some sid
  idle : ∀ c conn s, p.connections.get c = some conn → conn.session = sid →
    p.sessions.get sid = some s →
    conn.phase = .ended ∨ conn.phase = .found ∧ s.claimed = true

section Unserved
variable {p p' : Plane} {sid : ℕ} {evs : List Served}

theorem Effect.unserved (heffect : Effect p p' evs) (h : p.Unserved sid) :
    p'.Unserved sid ∧ ∀ ev ∈ evs, ev.session ≠ sid := by
  cases heffect with
  | none => exact ⟨h, fun _ hev => by cases hev⟩
  | @add sid' digest s hsid _ _ =>
    have hne : sid ≠ sid' := by
      rintro rfl
      obtain ⟨s, hs⟩ := h.known
      rw [hs] at hsid
      cases hsid
    refine ⟨⟨?_, fun d => ?_, fun c conn s' hc hconn hs' => ?_⟩, fun _ hev => by cases hev⟩
    · rw [Table.get_put_of_ne _ _ hne]
      exact h.known
    · rw [Table.get_put]
      split
      · exact fun heq => hne (Option.some.inj heq).symm
      · exact h.unregistered d
    · rw [Table.get_put_of_ne _ _ hne] at hs'
      exact h.idle c conn s' hc hconn hs'
  | @await c sid' digest hc hsid =>
    have hne : sid' ≠ sid := by
      rintro rfl
      exact h.unregistered digest hsid
    refine ⟨⟨h.known, h.unregistered, fun c' conn s hc' hconn hs => ?_⟩, fun _ hev => by cases hev⟩
    rw [Table.get_put] at hc'
    split at hc'
    · cases hc'
      exact absurd hconn hne
    · exact h.idle c' conn s hc' hconn hs
  | @go p' c conn conn' s s' evs hc hs hlive hsession hsocket hclosed hcancel hfound _ hevs
      hconnections hsessions
      hregistry _ _ =>
    have hunregistered : ∀ d, p'.registry.get d ≠ some sid :=
      fun d hd => h.unregistered d (hregistry d sid hd)
    by_cases hown : conn.session = sid
    · subst hown
      -- the connection has found the session too late, and is refused
      have hrefused : conn'.phase = .ended ∧ s' = s ∧ evs = [] := by
        rcases h.idle c conn s hc rfl hs with hended | ⟨hph, hclaimed⟩
        · exact absurd hended hlive
        · refine (hfound hph).resolve_left fun hfree => ?_
          rw [hclaimed] at hfree
          cases hfree.1
      obtain ⟨hended, rfl, rfl⟩ := hrefused
      refine ⟨⟨⟨s', by rw [hsessions, if_pos rfl]⟩, hunregistered, fun k conn₁ s₁ hk hconn₁ hs₁ => ?_⟩,
        fun _ hev => by cases hev⟩
      rw [hsessions, if_pos rfl, Option.some.injEq] at hs₁
      subst hs₁
      rw [hconnections] at hk
      split at hk
      · cases hk
        exact .inl hended
      · exact h.idle k conn₁ s' hk hconn₁ hs
    · refine ⟨⟨?_, hunregistered, fun k conn₁ s₁ hk hconn₁ hs₁ => ?_⟩,
        fun ev hev => by rw [hevs ev hev]; exact hown⟩
      · rw [hsessions, if_neg fun heq => hown heq.symm]
        exact h.known
      · rw [hsessions, if_neg fun heq => hown heq.symm] at hs₁
        rw [hconnections] at hk
        split at hk
        · cases hk
          exact absurd (hsession.symm.trans hconn₁) hown
        · exact h.idle k conn₁ s₁ hk hconn₁ hs₁
  | select selects =>
    refine ⟨⟨h.known, fun d hd => h.unregistered d ?_, h.idle⟩, fun _ hev => by cases hev⟩
    rw [Plane.step, Table.get_deleteWhere, Option.filter_eq_some_iff] at hd
    exact hd.1
  | @mark sid' s hs hsid =>
    refine ⟨⟨?_, h.unregistered, fun c conn s₁ hc hconn hs₁ => ?_⟩, fun _ hev => by cases hev⟩
    · rw [Table.get_put]
      split
      · exact ⟨_, rfl⟩
      · exact h.known
    · rw [Table.get_put] at hs₁
      split at hs₁
      · next heq =>
        subst heq
        cases hs₁
        exact h.idle c conn s hc hconn hs
      · exact h.idle c conn s₁ hc hconn hs₁
  | @cancel c conn hc hmem =>
    refine ⟨⟨h.known, h.unregistered, fun k conn₁ s hk hconn₁ hs => ?_⟩, fun _ hev => by cases hev⟩
    rw [Table.get_put] at hk
    split at hk
    · cases hk
      exact h.idle c conn s hc hconn₁ hs
    · exact h.idle k conn₁ s hk hconn₁ hs

/-- Nothing is ever done for a session that no connection can serve. -/
theorem Plane.Unserved.run (h : p.Unserved sid) (later : List Step) :
    ∀ ev ∈ (after Trace.step ⟨p, []⟩ later).served, ev.session ≠ sid := by
  have hstep : ∀ (t : Trace) (a : Step),
      (t.plane.Unserved sid ∧ ∀ ev ∈ t.served, ev.session ≠ sid) →
      ((t.step a).plane.Unserved sid ∧ ∀ ev ∈ (t.step a).served, ev.session ≠ sid) := by
    intro t a ht
    obtain ⟨hun, hserved⟩ := (step_effect t.plane a).unserved ht.1
    refine ⟨hun, fun ev hev => ?_⟩
    rcases List.mem_append.1 hev with hev | hev
    · exact ht.2 ev hev
    · exact hserved ev hev
  have hstart : (⟨p, []⟩ : Trace).plane.Unserved sid ∧ ∀ ev ∈ (⟨p, []⟩ : Trace).served,
      ev.session ≠ sid :=
    ⟨h, fun _ hev => by cases hev⟩
  exact (after_invariant hstep hstart later).2

end Unserved

/-! ## Reachable states -/

/-- The invariant of every run. -/
structure Plane.Ok (p : Plane) : Prop where
  registered : ∀ d sid, p.registry.get d = some sid → ∃ s, p.sessions.get sid = some s ∧
    s.closed = false
  selected : ∀ sid ∈ p.selected, (∃ s, p.sessions.get sid = some s) ∧
    ∀ d, p.registry.get d ≠ some sid
  session : ∀ c conn, p.connections.get c = some conn → ∃ s, p.sessions.get conn.session = some s
  bound : ∀ sid s c, p.sessions.get sid = some s → s.cancel = some c →
    ∃ conn, p.connections.get c = some conn ∧ conn.session = sid
  cancelling : ∀ c ∈ p.cancelling, ∃ conn s, p.connections.get c = some conn ∧
    p.sessions.get conn.session = some s ∧ s.closed = true
  socket : ∀ c conn s, p.connections.get c = some conn → conn.socketOpen = false →
    p.sessions.get conn.session = some s → s.closed = true

variable {s : Session}

section Ok
variable {p p' : Plane} {evs : List Served}

theorem Plane.ok_empty : ({} : Plane).Ok where
  registered _ _ h := by cases h
  selected _ h := by cases h
  session _ _ h := by cases h
  bound _ _ _ h := by cases h
  cancelling _ h := by cases h
  socket _ _ _ h := by cases h

/-- What is there stays: a session stays closed, a connection stays with its session. -/
structure Plane.Grows (p p' : Plane) : Prop where
  session : ∀ {k s}, p.sessions.get k = some s → ∃ s', p'.sessions.get k = some s' ∧
    (s.closed = true → s'.closed = true)
  connection : ∀ {k conn}, p.connections.get k = some conn →
    ∃ conn', p'.connections.get k = some conn' ∧ conn'.session = conn.session

/-- The invariant after a step, from what the step added. -/
theorem Plane.Ok.grow (h : p.Ok) (hgrows : p.Grows p')
    (hregistered : ∀ d sid, p'.registry.get d = some sid →
      (∃ s, p'.sessions.get sid = some s ∧ s.closed = false) ∧ sid ∉ p'.selected)
    (hselected : ∀ sid ∈ p'.selected, sid ∈ p.selected ∨ ∃ s, p.sessions.get sid = some s)
    (hconn : ∀ c conn, p'.connections.get c = some conn →
      (∃ conn₀, p.connections.get c = some conn₀ ∧ conn.session = conn₀.session ∧
        (conn.socketOpen = false → conn₀.socketOpen = false ∨ c ∈ p.cancelling)) ∨
      conn.socketOpen = true ∧ ∃ s, p'.sessions.get conn.session = some s)
    (hbound : ∀ sid s c, p'.sessions.get sid = some s → s.cancel = some c →
      ∃ conn, p.connections.get c = some conn ∧ conn.session = sid)
    (hcancelling : ∀ c ∈ p'.cancelling, c ∈ p.cancelling ∨
      ∃ conn s, p.connections.get c = some conn ∧ p'.sessions.get conn.session = some s ∧
        s.closed = true) : p'.Ok := by
  have hclosed : ∀ {c conn}, p.connections.get c = some conn → conn.socketOpen = false ∨
      c ∈ p.cancelling →
      ∃ s, p'.sessions.get conn.session = some s ∧ s.closed = true := by
    intro c conn hc hdone
    have hold : ∃ s, p.sessions.get conn.session = some s ∧ s.closed = true := by
      rcases hdone with hsocket | hmem
      · obtain ⟨s, hs⟩ := h.session c conn hc
        exact ⟨s, hs, h.socket c conn s hc hsocket hs⟩
      · obtain ⟨conn₁, s, hc₁, hs, hclosed⟩ := h.cancelling c hmem
        rw [hc, Option.some.injEq] at hc₁
        exact ⟨s, hc₁ ▸ hs, hclosed⟩
    obtain ⟨s, hs, hclosed⟩ := hold
    obtain ⟨s', hs', hmono⟩ := hgrows.session hs
    exact ⟨s', hs', hmono hclosed⟩
  refine ⟨fun d sid hd => (hregistered d sid hd).1, ?_, ?_, ?_, ?_, ?_⟩
  · intro sid hsid
    refine ⟨?_, fun d hd => (hregistered d sid hd).2 hsid⟩
    obtain ⟨s, hs⟩ : ∃ s, p.sessions.get sid = some s :=
      (hselected sid hsid).elim (fun h₀ => (h.selected sid h₀).1) id
    obtain ⟨s', hs', -⟩ := hgrows.session hs
    exact ⟨s', hs'⟩
  · intro c conn hc
    rcases hconn c conn hc with ⟨conn₀, hc₀, hsame, -⟩ | ⟨-, hs⟩
    · obtain ⟨s, hs⟩ := h.session c conn₀ hc₀
      obtain ⟨s', hs', -⟩ := hgrows.session hs
      exact ⟨s', hsame ▸ hs'⟩
    · exact hs
  · intro sid s c hs hc
    obtain ⟨conn, hconn, hsid⟩ := hbound sid s c hs hc
    obtain ⟨conn', hconn', hsame⟩ := hgrows.connection hconn
    exact ⟨conn', hconn', hsame.trans hsid⟩
  · intro c hmem
    have hold : ∃ conn s, p.connections.get c = some conn ∧ p'.sessions.get conn.session = some s ∧
        s.closed = true := by
      rcases hcancelling c hmem with hmem | hnew
      · obtain ⟨conn, s, hc, -⟩ := h.cancelling c hmem
        exact ⟨conn, (hclosed hc (.inr hmem)).imp fun s hs => ⟨hc, hs⟩⟩
      · exact hnew
    obtain ⟨conn, s, hc, hs, hdone⟩ := hold
    obtain ⟨conn', hc', hsame⟩ := hgrows.connection hc
    exact ⟨conn', s, hc', hsame ▸ hs, hdone⟩
  · intro c conn s hc hsocket hs
    rcases hconn c conn hc with ⟨conn₀, hc₀, hsame, hshut⟩ | ⟨hopen, -⟩
    · obtain ⟨s', hs', hdone⟩ := hclosed hc₀ (hshut hsocket)
      rw [← hsame, hs, Option.some.injEq] at hs'
      exact hs' ▸ hdone
    · rw [hopen] at hsocket
      cases hsocket

theorem Plane.Ok.add (h : p.Ok) {sid : ℕ} {digest : Bytes} (hsid : p.sessions.get sid = none)
    (hclosed : s.closed = false) (hcancel : s.cancel = none) :
    ({ p with sessions := p.sessions.put sid s, registry := p.registry.put digest sid } : Plane).Ok := by
  have hold : ∀ {k : ℕ} {s₁ : Session}, p.sessions.get k = some s₁ →
      (p.sessions.put sid s).get k = some s₁ := by
    intro k s₁ hk
    rw [Table.get_put_of_ne, hk]
    rintro rfl
    rw [hsid] at hk
    cases hk
  refine h.grow ⟨fun hk => ⟨_, hold hk, id⟩, fun hk => ⟨_, hk, rfl⟩⟩ ?_ (fun _ => .inl)
    (fun c conn hc => .inl ⟨conn, hc, rfl, .inl⟩) ?_ (fun _ => .inl)
  · intro d k hk
    rw [Table.get_put] at hk
    split at hk
    · cases hk
      refine ⟨⟨s, Table.get_put_self _ _ _, hclosed⟩, fun hmem => ?_⟩
      obtain ⟨s₁, hs₁⟩ := (h.selected sid hmem).1
      rw [hsid] at hs₁
      cases hs₁
    · obtain ⟨s₁, hs₁, hc₁⟩ := h.registered d k hk
      exact ⟨⟨s₁, hold hs₁, hc₁⟩, fun hmem => (h.selected k hmem).2 d hk⟩
  · intro k s₁ c hs₁ hc
    rw [Table.get_put] at hs₁
    split at hs₁
    · cases hs₁
      rw [hcancel] at hc
      cases hc
    · exact h.bound k s₁ c hs₁ hc

theorem Plane.Ok.await (h : p.Ok) {c sid : ℕ} {digest : Bytes} (hc : p.connections.get c = none)
    (hsid : p.registry.get digest = some sid) :
    ({ p with connections := p.connections.put c { session := sid } } : Plane).Ok := by
  refine h.grow ⟨fun hk => ⟨_, hk, id⟩, fun {k conn} hk => ⟨conn, ?_, rfl⟩⟩
    (fun d k hk => ⟨h.registered d k hk, fun hmem => (h.selected k hmem).2 d hk⟩) (fun _ => .inl) ?_
      h.bound (fun _ => .inl)
  · rw [Table.get_put_of_ne, hk]
    rintro rfl
    rw [hc] at hk
    cases hk
  · intro k conn hk
    rw [Table.get_put] at hk
    split at hk
    · cases hk
      obtain ⟨s, hs, -⟩ := h.registered digest sid hsid
      exact .inr ⟨rfl, s, hs⟩
    · exact .inl ⟨conn, hk, rfl, .inl⟩

theorem Plane.Ok.go (h : p.Ok) {c : ℕ} {conn conn' : Connection} {s' : Session}
    (hc : p.connections.get c = some conn) (hs : p.sessions.get conn.session = some s)
    (hsession : conn'.session = conn.session)
    (hsocket : conn'.socketOpen = conn.socketOpen) (hclosed : s'.closed = s.closed)
    (hcancel : s'.cancel = s.cancel ∨ s'.cancel = some c)
    (hconnections : ∀ k, p'.connections.get k = if k = c then some conn' else p.connections.get k)
    (hsessions : ∀ k, p'.sessions.get k = if k = conn.session then some s' else p.sessions.get k)
    (hregistry : ∀ d sid, p'.registry.get d = some sid → p.registry.get d = some sid)
    (hselected : p'.selected = p.selected) (hcancelling : p'.cancelling = p.cancelling) :
    p'.Ok := by
  have hsess : ∀ {k : ℕ} {s₁ : Session}, p.sessions.get k = some s₁ →
      ∃ s₂, p'.sessions.get k = some s₂ ∧ s₂.closed = s₁.closed := by
    intro k s₁ hk
    rw [hsessions]
    split
    · next heq =>
      rw [heq, hs] at hk
      cases hk
      exact ⟨s', rfl, hclosed⟩
    · exact ⟨s₁, hk, rfl⟩
  refine h.grow ⟨fun hk => (hsess hk).imp fun _ hs₂ => ⟨hs₂.1, hs₂.2.trans⟩, ?_⟩ ?_
    (fun _ hk => .inl (hselected ▸ hk)) ?_ ?_
    (fun _ hk => .inl (hcancelling ▸ hk))
  · intro k conn₁ hk
    rw [hconnections]
    split
    · next heq =>
      rw [heq, hc] at hk
      cases hk
      exact ⟨conn', rfl, hsession⟩
    · exact ⟨conn₁, hk, rfl⟩
  · intro d k hk
    have hk := hregistry d k hk
    obtain ⟨s₁, hs₁, hc₁⟩ := h.registered d k hk
    obtain ⟨s₂, hs₂, hc₂⟩ := hsess hs₁
    exact ⟨⟨s₂, hs₂, hc₂.trans hc₁⟩, fun hmem => (h.selected k (hselected ▸ hmem)).2 d hk⟩
  · intro k conn₂ hk
    rw [hconnections] at hk
    split at hk
    · next heq =>
      cases hk
      exact .inl ⟨conn, by rw [heq, hc], hsession, fun hshut => .inl (hsocket.symm.trans hshut)⟩
    · exact .inl ⟨conn₂, hk, rfl, .inl⟩
  · intro k s₂ c₂ hs₂ hc₂
    rw [hsessions] at hs₂
    split at hs₂
    · next heq =>
      cases hs₂
      rcases hcancel with heq₂ | heq₂
      · rw [heq]
        exact h.bound _ s c₂ hs (heq₂.symm.trans hc₂)
      · rw [heq₂] at hc₂
        cases hc₂
        exact ⟨conn, hc, heq.symm⟩
    · exact h.bound k s₂ c₂ hs₂ hc₂

theorem Plane.Ok.select (h : p.Ok) (selects : Session → Bool) :
    (p.step (.closeMatching selects)).1.Ok := by
  refine h.grow ⟨fun hk => ⟨_, hk, id⟩, fun hk => ⟨_, hk, rfl⟩⟩ ?_ ?_
    (fun c conn hc => .inl ⟨conn, hc, rfl, .inl⟩) h.bound
    (fun _ => .inl)
  · intro d sid hd
    rw [Plane.step, Table.get_deleteWhere, Option.filter_eq_some_iff] at hd
    refine ⟨h.registered d sid hd.1, fun hmem => ?_⟩
    rcases List.mem_append.1 hmem with hold | hnew
    · exact (h.selected sid hold).2 d hd.1
    · -- a session is selected under every digest or under none
      obtain ⟨x, hx, rfl⟩ := List.mem_map.1 hnew
      have hchosen := (List.mem_filter.1 hx).2
      simp [hchosen] at hd
  · intro sid hsid
    rcases List.mem_append.1 hsid with hold | hnew
    · exact .inl hold
    · obtain ⟨x, hx, rfl⟩ := List.mem_map.1 hnew
      obtain ⟨s, hs, -⟩ := h.registered x.1 x.2 (Table.get_eq_some.2 (List.mem_filter.1 hx).1)
      exact .inr ⟨s, hs⟩

theorem Plane.Ok.mark (h : p.Ok) {sid : ℕ} (hs : p.sessions.get sid = some s)
    (hsid : sid ∈ p.selected) :
    ({ p with
      sessions := p.sessions.put sid { s with closed := true }
      selected := p.selected.erase sid
      cancelling := p.cancelling ++ s.cancel.toList } : Plane).Ok := by
  refine h.grow ⟨fun {k s₁} hk => ?_, fun hk => ⟨_, hk, rfl⟩⟩ ?_
    (fun _ hk => .inl (List.mem_of_mem_erase hk))
    (fun c conn hc => .inl ⟨conn, hc, rfl, .inl⟩) ?_ ?_
  · rw [Table.get_put]
    split
    · exact ⟨_, rfl, fun _ => rfl⟩
    · exact ⟨s₁, hk, id⟩
  · intro d k hk
    have hun : k ∉ p.selected := fun hmem => (h.selected k hmem).2 d hk
    obtain ⟨s₁, hs₁, hc₁⟩ := h.registered d k hk
    refine ⟨⟨s₁, ?_, hc₁⟩, fun hmem => hun (List.mem_of_mem_erase hmem)⟩
    rw [Table.get_put_of_ne, hs₁]
    rintro rfl
    exact hun hsid
  · intro k s₂ c hs₂ hc
    rw [Table.get_put] at hs₂
    split at hs₂
    · next heq =>
      cases hs₂
      rw [heq]
      exact h.bound sid s c hs hc
    · exact h.bound k s₂ c hs₂ hc
  · intro c hmem
    rcases List.mem_append.1 hmem with hold | hnew
    · exact .inl hold
    · rw [Option.mem_toList] at hnew
      obtain ⟨conn, hc, rfl⟩ := h.bound sid s c hs hnew
      exact .inr ⟨conn, _, hc, Table.get_put_self _ _ _, rfl⟩

theorem Plane.Ok.cancel (h : p.Ok) {c : ℕ} {conn : Connection}
    (hc : p.connections.get c = some conn) (hmem : c ∈ p.cancelling) :
    ({ p with
      connections := p.connections.put c { conn with socketOpen := false }
      cancelling := p.cancelling.erase c } : Plane).Ok := by
  refine h.grow ⟨fun hk => ⟨_, hk, id⟩, fun {k conn₁} hk => ?_⟩
    (fun d k hk => ⟨h.registered d k hk, fun hmem => (h.selected k hmem).2 d hk⟩)
      (fun _ => .inl) ?_ h.bound
    (fun _ hk => .inl (List.mem_of_mem_erase hk))
  · rw [Table.get_put]
    split
    · next heq =>
      rw [heq, hc] at hk
      cases hk
      exact ⟨_, rfl, rfl⟩
    · exact ⟨conn₁, hk, rfl⟩
  · intro k conn₁ hk
    rw [Table.get_put] at hk
    split at hk
    · next heq =>
      cases hk
      exact .inl ⟨conn, heq ▸ hc, rfl, fun _ => .inr (heq ▸ hmem)⟩
    · exact .inl ⟨conn₁, hk, rfl, .inl⟩

theorem Effect.ok (heffect : Effect p p' evs) (h : p.Ok) : p'.Ok := by
  cases heffect with
  | none => exact h
  | add hsid hclosed hcancel => exact h.add hsid hclosed hcancel
  | await hc hsid => exact h.await hc hsid
  | go hc hs _ hsession hsocket hclosed hcancel _ _ _ hconnections hsessions hregistry hselected
      hcancelling =>
    exact h.go hc hs hsession hsocket hclosed hcancel hconnections hsessions hregistry
      hselected hcancelling
  | select selects => exact h.select selects
  | mark hs hsid => exact h.mark hs hsid
  | cancel hc hmem => exact h.cancel hc hmem

theorem Trace.run_ok (steps : List Step) : (after Trace.step {} steps).plane.Ok := by
  have hstep : ∀ (t : Trace) (a : Step), t.plane.Ok → (t.step a).plane.Ok :=
    fun t a ht => (step_effect t.plane a).ok ht
  have hstart : ({} : Trace).plane.Ok := Plane.ok_empty
  exact after_invariant hstep hstart steps

end Ok

/-! ## A connection that is served goes on -/

/-- The goroutine of `c` stands in a phase for session `sid`, with its socket open. -/
structure Plane.At (p : Plane) (c sid : ℕ) (phase : Phase) : Prop where
  connection : p.connections.get c = some { session := sid, phase }
  session : ∃ s, p.sessions.get sid = some s ∧
    (phase = .found → s.claimed = false ∧ s.closed = false)

section Continue
variable {p : Plane} {c sid : ℕ} {phase : Phase}

theorem advance_at (hc : p.connections.get c = some { session := sid, phase })
    (hs : p.sessions.get sid = some s) (f : Connection → Session → Plane × List Served) :
    p.advance c f = f { session := sid, phase } s := by
  rw [Plane.advance, hc]
  dsimp only
  rw [hs]

theorem at_setSession {phase' : Phase} (hne : phase' ≠ .found) (s' : Session) :
    ((p.setPhase c { session := sid, phase } phase').setSession sid s').At c sid phase' where
  connection := Table.get_put_self _ _ _
  session := ⟨s', Table.get_put_self _ _ _, fun h => absurd h hne⟩

theorem at_setPhase (hs : p.sessions.get sid = some s) {phase' : Phase} (hne : phase' ≠ .found) :
    (p.setPhase c { session := sid, phase } phase').At c sid phase' where
  connection := Table.get_put_self _ _ _
  session := ⟨s, hs, fun h => absurd h hne⟩

theorem Plane.At.claims (h : p.At c sid .found) : (p.step (.claim c true)).1.At c sid .claimed := by
  obtain ⟨s, hs, hfree⟩ := h.session
  obtain ⟨hclaimed, hclosed⟩ := hfree rfl
  rw [Plane.step, advance_at h.connection hs]
  simp only [ne_eq, not_true_eq_false, if_false, hclaimed, hclosed, Bool.not_false,
    Bool.and_self, if_true]
  exact at_setSession (by decide) _

theorem Plane.At.consumes (h : p.At c sid .claimed) :
    (p.step (.consume c true)).1.At c sid .consumed := by
  obtain ⟨s, hs, -⟩ := h.session
  rw [Plane.step, advance_at h.connection hs]
  simp only [ne_eq, not_true_eq_false, if_false, Bool.or_true, if_true]
  exact at_setSession (by decide) _

theorem Plane.At.binds (h : p.At c sid .consumed) : (p.step (.bind c)).1.At c sid .bound := by
  obtain ⟨s, hs, -⟩ := h.session
  rw [Plane.step, advance_at h.connection hs]
  exact at_setSession (by decide) _

theorem Plane.At.serves (h : p.At c sid .bound) :
    (p.step (.serve c)).1.At c sid (.reading true) := by
  obtain ⟨s, hs, -⟩ := h.session
  rw [Plane.step, advance_at h.connection hs]
  exact at_setPhase hs (by decide)

theorem Plane.At.reads {first : Bool} (h : p.At c sid (.reading first)) :
    (p.step (.read c)).1.At c sid (.holding first) := by
  obtain ⟨s, hs, -⟩ := h.session
  rw [Plane.step, advance_at h.connection hs]
  exact at_setPhase hs (by simp)

theorem Plane.At.handles {first : Bool} (h : p.At c sid (.holding first)) :
    (p.step (.handle c true)).2 = [.handled sid] := by
  obtain ⟨s, hs, -⟩ := h.session
  rw [Plane.step, advance_at h.connection hs]
  simp

theorem Plane.At.starts (h : p.At c sid .handling) :
    (p.step (.returns c true true)).2 = [.started sid] := by
  obtain ⟨s, hs, -⟩ := h.session
  rw [Plane.step, advance_at h.connection hs]
  simp

/-- In some continuation something is done for the session. -/
def Plane.Serves (p : Plane) (sid : ℕ) : Prop :=
  ∃ later, ∃ ev ∈ (after Trace.step ⟨p, []⟩ later).served, ev.session = sid

theorem served_append (p : Plane) (es : List Served) (later : List Step) :
    (after Trace.step ⟨p, es⟩ later).served = es ++ (after Trace.step ⟨p, []⟩ later).served := by
  induction later generalizing p es with
  | nil => simp
  | cons a later ih =>
    rw [after_cons, after_cons, Trace.step, Trace.step, ih, ih (p.step a).1 ([] ++ (p.step a).2)]
    simp

theorem Plane.Serves.of_step (a : Step) (h : (p.step a).1.Serves sid) : p.Serves sid := by
  obtain ⟨later, ev, hev, hsid⟩ := h
  refine ⟨a :: later, ev, ?_, hsid⟩
  rw [after_cons, Trace.step, served_append]
  exact List.mem_append_right _ hev

theorem Plane.Serves.now {a : Step} {ev : Served} (h : (p.step a).2 = [ev])
    (hsid : ev.session = sid) : p.Serves sid := by
  refine ⟨[a], ev, ?_, hsid⟩
  rw [after_cons, after_nil, Trace.step, h]
  exact List.mem_singleton.2 rfl

/-- A connection that is being served can go on until something is done for its session. -/
theorem Plane.At.serves_session (h : p.At c sid phase) (hlive : phase ≠ .ended) : p.Serves sid := by
  have hholding : ∀ {p : Plane} {first : Bool}, p.At c sid (.holding first) → p.Serves sid :=
    fun h => .now h.handles rfl
  have hreading : ∀ {p : Plane} {first : Bool}, p.At c sid (.reading first) → p.Serves sid :=
    fun h => .of_step (.read c) (hholding h.reads)
  have hbound : ∀ {p : Plane}, p.At c sid .bound → p.Serves sid :=
    fun h => .of_step (.serve c) (hreading h.serves)
  have hconsumed : ∀ {p : Plane}, p.At c sid .consumed → p.Serves sid :=
    fun h => .of_step (.bind c) (hbound h.binds)
  have hclaimed : ∀ {p : Plane}, p.At c sid .claimed → p.Serves sid :=
    fun h => .of_step (.consume c true) (hconsumed h.consumes)
  cases phase with
  | found => exact .of_step (.claim c true) (hclaimed h.claims)
  | claimed => exact hclaimed h
  | consumed => exact hconsumed h
  | bound => exact hbound h
  | reading first => exact hreading h
  | holding first => exact hholding h
  | handling => exact .now h.starts rfl
  | ended => exact absurd rfl hlive

end Continue

/-! ## A connection that was cancelled -/

/-- The connection has lost its socket, and no message it read is left. -/
def Plane.Cut (c : ℕ) (p : Plane) : Prop :=
  ∃ conn, p.connections.get c = some conn ∧ conn.socketOpen = false ∧ conn.phase.busy = false

section Cut
variable {p p' : Plane} {c : ℕ} {evs : List Served}

theorem Effect.cut (heffect : Effect p p' evs) (h : p.Cut c) : p'.Cut c := by
  obtain ⟨conn, hc, hsocket, hbusy⟩ := h
  cases heffect with
  | none | add | select | mark => exact ⟨conn, hc, hsocket, hbusy⟩
  | await hnew =>
    refine ⟨conn, ?_, hsocket, hbusy⟩
    rw [Table.get_put_of_ne, hc]
    rintro rfl
    simp [hnew] at hc
  | @go _ k conn₁ conn' _ _ _ hk _ _ _ hsame _ _ _ hread _ hconnections =>
    by_cases heq : c = k
    · subst heq
      cases hc.symm.trans hk
      exact ⟨conn', by rw [hconnections, if_pos rfl], hsame.trans hsocket, hread hsocket hbusy⟩
    · exact ⟨conn, by rw [hconnections, if_neg heq, hc], hsocket, hbusy⟩
  | @cancel k conn₁ hk _ =>
    by_cases heq : c = k
    · subst heq
      cases hc.symm.trans hk
      exact ⟨_, Table.get_put_self _ _ _, rfl, hbusy⟩
    · exact ⟨conn, by rw [Table.get_put_of_ne _ _ heq, hc], hsocket, hbusy⟩

theorem Plane.Cut.handles_nothing (h : p.Cut c) (valid : Bool) :
    (p.step (.handle c valid)).2 = [] := by
  obtain ⟨conn, hc, -, hbusy⟩ := h
  simp only [Plane.step, Plane.advance, hc]
  cases p.sessions.get conn.session with
  | none => rfl
  | some s => cases hp : conn.phase <;> simp_all [Phase.busy]

/-- Where the connection is bound, closing works: once `closeMatching` has marked
    the session and called the cancel function, no further frame of the
    connection is handled, in any continuation.  What it had read may still be. -/
theorem marked_connection_handles_nothing {sid : ℕ} {s : Session} {conn : Connection}
    (hsid : sid ∈ p.selected) (hs : p.sessions.get sid = some s) (hbound : s.cancel = some c)
    (hc : p.connections.get c = some conn)
    (hbusy : conn.phase.busy = false) (later : List Step) (valid : Bool) :
    ((after Trace.step ⟨((p.step (.mark sid)).1.step (.cancel c)).1, []⟩ later).plane.step
      (.handle c valid)).2 = [] := by
  have hcut : ((p.step (.mark sid)).1.step (.cancel c)).1.Cut c := by
    refine ⟨{ conn with socketOpen := false }, ?_, rfl, hbusy⟩
    simp [Plane.step, hs, hsid, hbound, hc]
  have hstep : ∀ (t : Trace) a, t.plane.Cut c → (t.step a).plane.Cut c :=
    fun t a ht => (step_effect t.plane a).cut ht
  have hrun := after_invariant hstep (s := ⟨_, []⟩) hcut later
  exact hrun.handles_nothing valid

end Cut

/-- A closed session is not served, and exactly when.  In every interleaving,
    after `closeMatching` has selected a session nothing is done for it any more
    iff at that moment no connection is being served for it, and none that has
    found it can still claim it. -/
theorem closed_session_unserved_iff (steps : List Step) (selects : Session → Bool) (digest : Bytes)
    (sid : ℕ) (s : Session)
    (hregistered : (after Trace.step {} steps).plane.registry.get digest = some sid)
    (hsession : (after Trace.step {} steps).plane.sessions.get sid = some s)
    (hselected : selects s = true) :
    (∀ later,
      ∀ ev ∈ (after Trace.step ⟨((after Trace.step {} steps).plane.step (.closeMatching selects)).1,
        []⟩ later).served, ev.session ≠ sid) ↔ ¬(after Trace.step {} steps).plane.Serving sid := by
  have hok := Trace.run_ok steps
  generalize (after Trace.step {} steps).plane = p at *
  have hopen : s.closed = false := by
    obtain ⟨s₁, hs₁, hclosed⟩ := hok.registered digest sid hregistered
    rw [hsession] at hs₁
    cases hs₁
    exact hclosed
  constructor
  · rintro hnone ⟨c, conn, s₁, hc, rfl, hs₁, hlive, hfree⟩
    rw [hsession] at hs₁
    cases hs₁
    -- the socket is open, for the session was not marked before
    have hsocket : conn.socketOpen = true := by
      by_contra hf
      have hclosed := hok.socket c conn s hc (Bool.not_eq_true _ ▸ hf) hsession
      rw [hopen] at hclosed
      cases hclosed
    have hat : (p.step (.closeMatching selects)).1.At c conn.session conn.phase := by
      refine ⟨?_, s, hsession, fun h => ⟨hfree h, hopen⟩⟩
      rw [← hsocket]
      exact hc
    obtain ⟨later, ev, hev, hsid⟩ := hat.serves_session hlive
    exact hnone later ev hev hsid
  · intro hnot later
    have hunserved : (p.step (.closeMatching selects)).1.Unserved sid := by
      refine ⟨⟨s, hsession⟩, fun d hd => ?_, fun c conn s₁ hc hconn hs₁ => ?_⟩
      · rw [Plane.step, Table.get_deleteWhere, Option.filter_eq_some_iff] at hd
        simp [hsession, hselected] at hd
      · by_contra hne
        rw [not_or, not_and, Bool.not_eq_true] at hne
        exact hnot ⟨c, conn, s₁, hc, hconn, hs₁, hne.1, hne.2⟩
    exact hunserved.run later

/-- The session is closed while its credential is being consumed: `closeMatching`
    finds no cancel function and is done. -/
def closedTooEarly : List Step :=
  [.add 0 [1] ⟨⟨"assignment", "sandbox", "instance", 1, [7]⟩, "exec", "stream"⟩ .exec, .await 5 [1],
    .claim 5 true]

/-- A session closed before its connection binds. -/
def servedAnyway : List Step :=
  [.mark 0, .consume 5 true, .bind 5, .serve 5, .read 5, .handle 5 true]

/-- A frame is handled for a session after `closeMatching` is through with it. -/
theorem closed_session_is_served :
    (after Trace.step {} closedTooEarly).plane.registry.get [1] = some 0 ∧
    (let closed := ((after Trace.step {} closedTooEarly).plane.step (.closeMatching fun _ => true)).1
     ((closed.step (.mark 0)).1.selected = [] ∧ (closed.step (.mark 0)).1.cancelling = []) ∧
      Served.handled 0 ∈ (after Trace.step ⟨closed, []⟩ servedAnyway).served) := by
  decide +kernel

/-- The session is closed after the only connection that claimed it was refused. -/
def closedAfterRefusal : List Step := closedTooEarly ++ [.consume 5 false]

theorem closed_session_unserved_after_refusal :
    (after Trace.step {} closedAfterRefusal).plane.registry.get [1] = some 0 ∧
    ∀ later, ∀ ev ∈ (after Trace.step
      ⟨((after Trace.step {} closedAfterRefusal).plane.step (.closeMatching fun _ => true)).1, []⟩
      later).served, ev.session ≠ 0 := by
  have hregistered : (after Trace.step {} closedAfterRefusal).plane.registry.get [1] = some 0 := by
    decide +kernel
  refine ⟨hregistered, (closed_session_unserved_iff closedAfterRefusal (fun _ => true) [1] 0
    ⟨[1], ⟨⟨"assignment", "sandbox", "instance", 1, [7]⟩, "exec", "stream"⟩, .exec, false, false,
    false, false, none⟩
    hregistered (by decide +kernel) rfl).2 ?_⟩
  have hended : ∀ x ∈ (after Trace.step {} closedAfterRefusal).plane.connections.rows,
      x.2.phase = .ended := by
    decide +kernel
  rintro ⟨c, conn, s, hc, -, -, hlive, -⟩
  exact hlive (hended _ (Table.get_eq_some.1 hc))

end SecondBox.Runner.Direct
