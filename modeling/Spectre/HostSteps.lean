/-
What an event does to the system of the supervisor and its games.

Either a game goes through one iteration of its loop, or the event is a
few operations on the supervisor's tables and the games' queues (`Op`).
What every operation and every iteration keeps holds in every state of
every run (`HostReaches.preserves`).
-/
import Spectre.Hosting

namespace Spectre.Hosting

-- ====================================================================== events

/-- What holds of an event. -/
def HostEvent.Sound : HostEvent → Prop
  | connection connId link _ _ => connId ≠ hostConn ∧ link.sent = []
  | askGame _ connId _ link => connId ≠ hostConn ∧ link.sent = []
  | conn ev => ev.connId ≠ hostConn
  | act _ env => env.fakeLink.sent = []
  | _ => True

/-- The event may host a game whatever the limit: at the start of the
supervisor, or by `!pubby` and `!privby`. -/
def HostEvent.bypasses [RustStd] (cfg : HostConfig) : HostEvent → Bool
  | hostOnStart .. => true
  | chat user text _ =>
      match parseLine cfg user text with
      | some (.hostFor ..) => true
      | _ => false
  | _ => false

/-- The event may host a game. -/
def HostEvent.creates [RustStd] (cfg : HostConfig) : HostEvent → Bool
  | hostOnStart .. => true
  | chat user text _ =>
      match parseLine cfg user text with
      | some (.host ..) | some (.hostFor ..) => true
      | _ => false
  | _ => false

-- ================================================================== operations

/-- The operations of the supervisor, and the exit of a game, in the
event `ev` that happens in `s₀`. A game is created, if at all, first. -/
inductive Op [RustStd] (cfg : HostConfig) (s₀ : System) (ev : HostEvent) : System → System → Prop
  | send {sys : System} (h : Nat) (c : GameCmd) (hc : ev.Sound → c.Sound) :
      Op cfg s₀ ev sys (sys.send h c)
  | create (sp : Spawn) (name owner : Text) (isPublic : Bool) (hcreates : ev.creates cfg = true)
      (hroom : ev.bypasses cfg = false → s₀.sup.games.length < cfg.maxGames) :
      Op cfg s₀ ev s₀ (s₀.createGame cfg sp name owner isPublic)
  | drop {sys : System} (q : ActiveGame → Bool) (g : ActiveGame)
      (hfind : sys.sup.games.find? q = some g) :
      Op cfg s₀ ev sys (sys.dropGame g (sys.sup.games.eraseP q))
  | forget {sys : System} (h : Nat) (hcurrent : sys.sup.currentGame = some h) :
      Op cfg s₀ ev sys { sys with
        sup := { sys.sup with
          currentGame := none, currentGameName := none, currentGameAdvert := none }
        bnet := sys.bnet ++ [.unhostGame], unhosted := sys.unhosted ++ [h] }
  | clean {sys : System} : Op cfg s₀ ev sys sys.cleanFinishedGames
  | bind {sys : System} (connId h : Nat) :
      Op cfg s₀ ev sys { sys with
        sup := { sys.sup with connToGame := sys.sup.connToGame.insert connId h } }
  | report {sys : System} : Op cfg s₀ ev sys sys.handleStatus
  | stop {sys : System} (running requested : Bool) :
      Op cfg s₀ ev sys { sys with
        sup := { sys.sup with running := running, shutdownRequested := requested } }
  | exit {sys : System} (h : Nat) : Op cfg s₀ ev sys (sys.exit h)

/-- Some operations, one after another. -/
abbrev Ops [RustStd] (cfg : HostConfig) (s₀ : System) (ev : HostEvent) : System → System → Prop :=
  Relation.ReflTransGen (Op cfg s₀ ev)

section Steps

variable [RustStd] {cfg : HostConfig} {s₀ : System} {ev : HostEvent}

/-- The same command to several games. -/
theorem ops_sendAll {c : GameCmd} (hc : ev.Sound → c.Sound) (handles : List Nat) (sys : System) :
    Ops cfg s₀ ev sys (handles.foldl (fun sys h => sys.send h c) sys) := by
  induction handles generalizing sys with
  | nil => exact .refl
  | cons h handles ih => exact .head (.send h c hc) (ih _)

/-- Everything is told to end. -/
theorem ops_shutdown (sys : System) : Ops cfg s₀ ev sys sys.shutdown := by
  have hshutdown : ev.Sound → GameCmd.shutdown.Sound := fun _ => trivial
  exact .head (.stop false sys.sup.shutdownRequested) (ops_sendAll hshutdown _ _)

/-- One game is. -/
theorem ops_unhost (sys : System) (name : Text) : Ops cfg s₀ ev sys (sys.unhost name) := by
  unfold System.unhost
  split
  · dsimp only
    split
    · rename_i g hfind
      exact .single (.drop _ g hfind)
    · exact .refl
  · split
    · rename_i g hfind
      exact .single (.drop _ g hfind)
    · split
      · rename_i h hcurrent
        exact .tail (.single (.send h .unhost fun _ => trivial)) (.forget h hcurrent)
      · exact .refl

/-- A command in a channel. -/
theorem ops_handleChatCommand (sys : System) {user text : Text} {sp : Spawn}
    (hev : ev = .chat user text sp) :
    Ops cfg sys ev sys (sys.handleChatCommand cfg user text sp) := by
  unfold System.handleChatCommand
  split
  · rename_i isPublic name hparse
    split
    · exact .refl
    · rename_i hroom
      refine .single (.create sp _ _ _ ?_ fun _ => Nat.lt_of_not_le hroom)
      simp [hev, HostEvent.creates, hparse]
  · rename_i isPublic owner name hparse
    refine .single (.create sp _ _ _ ?_ fun hbypass => ?_)
    · simp [hev, HostEvent.creates, hparse]
    · simp [hev, HostEvent.bypasses, hparse] at hbypass
  · exact ops_unhost sys _
  · split
    · exact .single (.send _ .start fun _ => trivial)
    · exact .refl
  · exact .single (.stop sys.sup.running true)
  · exact .refl

/-- A game that is hosted at the start. -/
theorem ops_hostOnStart (sys : System) {name owner : Text} {fakePlayer : Bool} {sp : Spawn}
    (hev : ev = .hostOnStart name owner fakePlayer sp) :
    Ops cfg sys ev sys (sys.hostOnStart cfg name owner fakePlayer sp) := by
  have hcreate : Ops cfg sys ev sys (sys.createGame cfg sp name owner true) := by
    refine .single (.create sp name owner true ?_ fun hbypass => ?_)
    · rw [hev]
      rfl
    · rw [hev] at hbypass
      cases hbypass
  unfold System.hostOnStart
  dsimp only
  split
  · split
    · exact hcreate.tail (.send _ .toggleFakePlayer fun _ => trivial)
    · exact hcreate
  · exact hcreate

/-- An iteration of the supervisor's loop. -/
theorem ops_supervise (sys : System) : Ops cfg sys ev sys (sys.supervise cfg ev) := by
  cases hev : ev with
  | chat user text sp => exact ops_handleChatCommand sys rfl
  | hostOnStart name owner fakePlayer sp => exact ops_hostOnStart sys rfl
  | cleanup => exact .single .clean
  | connection connId link externalIp localPort =>
      show Ops cfg sys _ sys (sys.handleNewConnection connId link externalIp localPort)
      unfold System.handleNewConnection
      split
      · rename_i h _
        exact .tail (.single (.send h _ id)) (.bind connId h)
      · exact .refl
  | adopted connId h => exact .single (.bind connId h)
  | conn e =>
      show Ops cfg sys _ sys (sys.handleConnEvent e)
      unfold System.handleConnEvent
      split
      · refine .single (.send _ _ fun hsound => ?_)
        unfold ConnEvent.cmd
        cases e.kind with
        | frame f => exact hsound
        | closed reason => trivial
      · exact .refl
  | status => exact .single .report
  | startAfter _ => exact ops_shutdown sys
  | askGame _ _ _ _ => exact ops_shutdown sys
  | shutdown => exact ops_shutdown sys
  | act _ _ => exact ops_shutdown sys
  | elapse _ _ => exact ops_shutdown sys
  | tick _ _ => exact ops_shutdown sys
  | exit _ => exact ops_shutdown sys

/-- The event is one for the actor: it takes the next command off its
queue, or its clock goes on. -/
structure Iterates (ev : HostEvent) (h : Nat) (a : Actor) (inbox : List GameCmd)
    (e : Event) : Prop where
  runs : a.exited = false ∧ a.game.finished = false
  queued : ∀ c ∈ inbox, c ∈ a.inbox
  event : (∃ env c, ev = .act h env ∧ e = .cmd env c ∧ a.inbox = c :: inbox)
    ∨ (∃ ms, ev = .elapse h ms ∧ e = .elapse ms) ∨ ∃ skipped, ev = .tick h skipped
      ∧ e = .tick skipped

/-- Only a game that runs takes a command. -/
theorem act_cases (sys : System) (h : Nat) (env : Env) :
    sys.act h env = sys ∨ ∃ a c inbox, sys.actors[h]? = some a
      ∧ Iterates (.act h env) h a inbox (.cmd env c)
      ∧ sys.act h env = sys.iterate h a inbox (.cmd env c) := by
  unfold System.act
  split
  · rename_i a ha
    split
    · rename_i c inbox hinbox
      split
      · exact .inl rfl
      · rename_i hrun
        rw [not_or, Bool.not_eq_true, Bool.not_eq_true] at hrun
        refine .inr ⟨a, c, inbox, ha, ⟨hrun, fun d hd => ?_, .inl ?_⟩, rfl⟩
        · exact hinbox ▸ List.mem_cons_of_mem c hd
        · exact ⟨env, c, rfl, rfl, hinbox⟩
    · exact .inl rfl
  · exact .inl rfl

/-- Only a game that runs has a clock. -/
theorem clock_cases (sys : System) {h : Nat} {e : Event}
    (he : (∃ ms, ev = .elapse h ms ∧ e = .elapse ms)
      ∨ ∃ skipped, ev = .tick h skipped ∧ e = .tick skipped) :
    sys.clock h e = sys ∨ ∃ a, sys.actors[h]? = some a ∧ Iterates ev h a a.inbox e
      ∧ sys.clock h e = sys.iterate h a a.inbox e := by
  unfold System.clock
  split
  · rename_i a ha
    split
    · exact .inl rfl
    · rename_i hrun
      rw [not_or, Bool.not_eq_true, Bool.not_eq_true] at hrun
      exact .inr ⟨a, ha, ⟨hrun, fun _ hc => hc, .inr he⟩, rfl⟩
  · exact .inl rfl

/-- The supervisor's events. -/
theorem ops_loop (sys : System) : Ops cfg sys ev sys
    (if !sys.sup.running then sys else if sys.sup.shutdownRequested then sys.shutdown
      else sys.supervise cfg ev) := by
  split
  · exact .refl
  · split
    · exact ops_shutdown sys
    · exact ops_supervise sys

/-- What an event does. -/
theorem step_cases (sys : System) (cfg : HostConfig) (ev : HostEvent) :
    Ops cfg sys ev sys (sys.step cfg ev)
      ∨ ∃ h a inbox e, sys.actors[h]? = some a ∧ Iterates ev h a inbox e
        ∧ sys.step cfg ev = sys.iterate h a inbox e := by
  cases ev with
  | act h env =>
      rcases act_cases sys h env with hsame | ⟨a, c, inbox, hiter⟩
      · have hstep : sys.step cfg (.act h env) = sys := hsame
        rw [hstep]
        exact .inl .refl
      · exact .inr ⟨h, a, inbox, _, hiter⟩
  | elapse h ms =>
      rcases clock_cases sys (.inl ⟨ms, rfl, rfl⟩) with hsame | ⟨a, hiter⟩
      · have hstep : sys.step cfg (.elapse h ms) = sys := hsame
        rw [hstep]
        exact .inl .refl
      · exact .inr ⟨h, a, a.inbox, _, hiter⟩
  | tick h skipped =>
      rcases clock_cases sys (.inr ⟨skipped, rfl, rfl⟩) with hsame | ⟨a, hiter⟩
      · have hstep : sys.step cfg (.tick h skipped) = sys := hsame
        rw [hstep]
        exact .inl .refl
      · exact .inr ⟨h, a, a.inbox, _, hiter⟩
  | exit h => exact .inl (.single (.exit h))
  | startAfter h => exact .inl (.single (.send h .start fun _ => trivial))
  | askGame h connId req link => exact .inl (.single (.send h _ id))
  | chat _ _ _ => exact .inl (ops_loop sys)
  | hostOnStart _ _ _ _ => exact .inl (ops_loop sys)
  | cleanup => exact .inl (ops_loop sys)
  | connection _ _ _ _ => exact .inl (ops_loop sys)
  | adopted _ _ => exact .inl (ops_loop sys)
  | conn _ => exact .inl (ops_loop sys)
  | status => exact .inl (ops_loop sys)
  | shutdown => exact .inl (ops_loop sys)

end Steps

-- ============================================================== a sound system

/-- The games are in states that a game can be in, and their queues hold
commands that can be sent. -/
def System.Sound (sys : System) : Prop :=
  ∀ a ∈ sys.actors, WellFormed a.game ∧ ∀ c ∈ a.inbox, c.Sound

/-- A command waits in the queue of the game, or is lost. -/
theorem actor_send (a : Actor) (c : GameCmd) :
    (a.send c).game = a.game ∧ (a.send c).exited = a.exited
      ∧ ((a.send c).inbox = a.inbox ∨ (a.send c).inbox = a.inbox ++ [c]) := by
  unfold Actor.send
  split
  · exact ⟨rfl, rfl, .inr rfl⟩
  · exact ⟨rfl, rfl, .inl rfl⟩

/-- What all actors have, one that is updated has too. -/
theorem forall_modify {P : Actor → Prop} {actors : List Actor} (h : ∀ a ∈ actors, P a)
    {f : Actor → Actor} (hf : ∀ a, P a → P (f a)) (i : Nat) : ∀ a ∈ actors.modify i f, P a := by
  intro b hb
  obtain ⟨j, hj⟩ := List.getElem?_of_mem hb
  rw [List.getElem?_modify] at hj
  obtain ⟨a, ha, hab⟩ := Option.map_eq_some_iff.1 hj
  have hP := h a (List.mem_of_getElem? ha)
  rw [← hab]
  split
  · exact hf a hP
  · exact hP

namespace System

variable {sys : System}

/-- A command that can be sent. -/
theorem Sound.send (hs : sys.Sound) (h : Nat) {c : GameCmd} (hc : c.Sound) :
    (sys.send h c).Sound := by
  refine forall_modify hs (fun a ha => ?_) h
  obtain ⟨hgame, -, hinbox⟩ := actor_send a c
  refine ⟨hgame ▸ ha.1, fun d hd => ?_⟩
  rcases hinbox with hsame | hmore
  · exact ha.2 d (hsame ▸ hd)
  · rw [hmore, List.mem_append, List.mem_singleton] at hd
    rcases hd with hd | rfl
    · exact ha.2 d hd
    · exact hc

variable [RustStd] {cfg : HostConfig} {s₀ : System} {ev : HostEvent} {t : System}

/-- A game more, in its first state. -/
theorem Sound.createGame (hs : sys.Sound) (sp : Spawn) (name owner : Text) (isPublic : Bool) :
    (sys.createGame cfg sp name owner isPublic).Sound := by
  unfold System.createGame
  dsimp only
  split
  · exact hs
  · intro a ha
    rcases List.mem_append.1 ha with ha | ha
    · exact hs a ha
    · rw [List.mem_singleton.1 ha]
      refine ⟨new_wellFormed _ _ _, fun c hc => ?_⟩
      rcases List.mem_cons.1 hc with rfl | hc
      · trivial
      · split at hc
        · rw [List.mem_singleton.1 hc]
          trivial
        · cases hc

omit [RustStd] in
/-- Whoever is told of games that are over, the games are as they were. -/
theorem actors_cleanFinishedGames (sys : System) : sys.cleanFinishedGames.actors = sys.actors := by
  unfold System.cleanFinishedGames
  dsimp only
  split
  · split
    · rfl
    · rfl
  · rfl

/-- Every operation keeps the system sound. -/
theorem Sound.op (hs : sys.Sound) (hev : ev.Sound) (h : Op cfg s₀ ev sys t) : t.Sound := by
  cases h with
  | send h c hc => exact hs.send h (hc hev)
  | create sp name owner isPublic _ _ => exact hs.createGame sp name owner isPublic
  | drop q g _ => exact hs.send g.handle trivial
  | forget h _ => exact hs
  | clean =>
      unfold Sound
      rw [actors_cleanFinishedGames]
      exact hs
  | bind connId h => exact hs
  | report =>
      unfold System.handleStatus
      split
      · exact hs
      · exact hs
  | stop running requested => exact hs
  | exit h =>
      refine forall_modify hs (fun a ha => ?_) h
      split
      · exact ⟨ha.1, fun c hc => (List.not_mem_nil hc).elim⟩
      · exact ha

omit [RustStd] in
/-- What a game handles is sound. -/
theorem Sound.event (hs : sys.Sound) (hev : ev.Sound) {h : Nat} {a : Actor} {inbox : List GameCmd}
    {e : Event} (ha : sys.actors[h]? = some a) (hiter : Iterates ev h a inbox e) : e.Sound := by
  rcases hiter.event with ⟨env, c, rfl, rfl, hc⟩ | ⟨ms, -, rfl⟩ | ⟨skipped, -, rfl⟩
  · exact ⟨hev, (hs a (List.mem_of_getElem? ha)).2 c (hc ▸ List.mem_cons_self)⟩
  · trivial
  · trivial

/-- So does every iteration of a game. -/
theorem Sound.iterate (hs : sys.Sound) (hev : ev.Sound) {h : Nat} {a : Actor} {inbox : List GameCmd}
    {e : Event} (ha : sys.actors[h]? = some a) (hiter : Iterates ev h a inbox e) :
    (sys.iterate h a inbox e).Sound := by
  obtain ⟨hwf, hcmds⟩ := hs a (List.mem_of_getElem? ha)
  intro b hb
  rcases List.mem_or_eq_of_mem_set hb with hb | rfl
  · exact hs b hb
  · exact ⟨step_wellFormed hwf (hs.event hev ha hiter), fun c hc => hcmds c (hiter.queued c hc)⟩

end System

-- ======================================================================== runs

/-- `sys` is a state of the system, reached by events that meet `C`. -/
def HostReaches [RustStd] (cfg : HostConfig) (C : System → HostEvent → Prop)
    (sys : System) : Prop :=
  Lib.Path (fun ev s t => t = s.step cfg ev) (fun ev s => ev.Sound ∧ C s ev) {} sys

/-- Every event of a list is sound and meets `C` where it happens. -/
def HostMeets [RustStd] (cfg : HostConfig) (C : System → HostEvent → Prop) :
    System → List HostEvent → Prop
  | _, [] => True
  | sys, ev :: evs => (ev.Sound ∧ C sys ev) ∧ HostMeets cfg C (sys.step cfg ev) evs

instance (ev : HostEvent) : Decidable ev.Sound := by
  cases ev <;> unfold HostEvent.Sound <;> infer_instance

/-- Whether a list of events meets a decidable condition. -/
def decideHostMeets [RustStd] (cfg : HostConfig) {C : System → HostEvent → Prop}
    (h : ∀ sys ev, Decidable (C sys ev)) :
    (sys : System) → (evs : List HostEvent) → Decidable (HostMeets cfg C sys evs)
  | _, [] => isTrue trivial
  | sys, ev :: evs =>
      have := h sys ev
      have := decideHostMeets cfg h (sys.step cfg ev) evs
      inferInstanceAs (Decidable ((ev.Sound ∧ C sys ev) ∧ HostMeets cfg C (sys.step cfg ev) evs))

instance [RustStd] (cfg : HostConfig) (C : System → HostEvent → Prop)
    [h : ∀ sys ev, Decidable (C sys ev)] (sys : System) (evs : List HostEvent) :
    Decidable (HostMeets cfg C sys evs) := decideHostMeets cfg h sys evs

/-- A list of events that all meet the condition is a run. -/
theorem HostReaches.of_meets [RustStd] {cfg : HostConfig} {C : System → HostEvent → Prop}
    {evs : List HostEvent} (h : HostMeets cfg C {} evs) :
    HostReaches cfg C (({} : System).run cfg evs) := by
  have hpath : ∀ sys : System, HostMeets cfg C sys evs →
      Lib.Path (fun ev s t => t = System.step s cfg ev) (fun ev s => ev.Sound ∧ C s ev) sys
        (sys.run cfg evs) := by
    clear h
    induction evs with
    | nil => exact fun sys _ => Lib.Path.refl sys
    | cons ev evs ih => exact fun sys h => (Lib.Path.one (k := ev) h.1 rfl).trans (ih _ h.2)
  exact hpath {} h

/-- What holds at the start, and is kept by every operation and every
iteration of a game, holds throughout. -/
theorem HostReaches.preserves [RustStd] {cfg : HostConfig} {C : System → HostEvent → Prop}
    {sys : System} {I : System → Prop} (h : HostReaches cfg C sys) (hnew : I {})
    (hop : ∀ s₀ ev s t, C s₀ ev → ev.Sound → s.Sound → Op cfg s₀ ev s t → I s → I t)
    (hiter : ∀ s ev h a inbox e, s.Sound → C s ev → ev.Sound → s.actors[h]? = some a →
      Iterates ev h a inbox e → I s → I (s.iterate h a inbox e)) : sys.Sound ∧ I sys := by
  refine Lib.Path.preserves (I := fun s : System => s.Sound ∧ I s) ?_ h
    ⟨fun a ha => (List.not_mem_nil ha).elim, hnew⟩
  rintro ev s _ ⟨hev, hC⟩ rfl ⟨hs, hI⟩
  rcases step_cases s cfg ev with hops | ⟨h, a, inbox, e, ha, hit, hstep⟩
  · generalize s.step cfg ev = t at hops
    induction hops with
    | refl => exact ⟨hs, hI⟩
    | tail _ hlast ih => exact ⟨ih.1.op hev hlast, hop s ev _ _ hC hev ih.1 hlast ih.2⟩
  · rw [hstep]
    exact ⟨hs.iterate hev ha hit, hiter s ev h a inbox e hs hC hev ha hit hI⟩

end Spectre.Hosting
