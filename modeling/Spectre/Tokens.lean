/-
FULL-rejoin tokens.

A GPS FULL frame caches a token for the connection it came on, and a
later REQ_JOIN on the same connection may spend it. Between the two any
number of other events may come. `TokenInv` is what survives them all:
as long as a connection is pending, the token cached for it is the one
its latest FULL frame carried.

The invariant rests on the listener, which numbers the connections and
never hands out a number twice.
-/
import Mathlib.Data.List.Induction
import Spectre.Scenario

namespace Spectre

open GameState

-- ==================================================================== events

/-- The connection an event opens. -/
def Event.opens : Event → Option Nat
  | cmd _ (.newConn connId _ _) => some connId
  | _ => none

/-- What an event does to the last token a connection has sent: a FULL
frame replaces it, and with the connection it is gone. -/
def Event.tokenAfter (connId : Nat) (last : Option (UInt8 × UInt32)) : Event
    → Option (UInt8 × UInt32)
  | cmd _ (.frame c (.gps id payload)) =>
      if c = connId ∧ id = 0x05 then
        match decodeFull payload with
        | .ok token => some token
        | .error _ => last
      else last
  | cmd _ (.closed c _) => if c = connId then none else last
  | _ => last

/-- The token the latest GPS FULL frame on a connection carried. -/
def lastFull (evs : List Event) (connId : Nat) : Option (UInt8 × UInt32) :=
  evs.foldl (fun last ev => ev.tokenAfter connId last) none

/-- The event is a FULL frame on the connection. -/
def Event.fullOn (connId : Nat) : Event → Bool
  | cmd _ (.frame c (.gps id payload)) => c = connId && id = 0x05 && (decodeFull payload).toBool
  | _ => false

/-- One event more. -/
theorem lastFull_concat (evs : List Event) (ev : Event) (connId : Nat) :
    lastFull (evs ++ [ev]) connId = ev.tokenAfter connId (lastFull evs connId) := by
  simp [lastFull]

/-- Without a FULL frame no token comes. -/
theorem Event.tokenAfter_none {ev : Event} {connId : Nat} (h : ev.fullOn connId = false) :
    ev.tokenAfter connId none = none := by
  unfold tokenAfter
  split
  · rename_i c id payload
    split
    · rename_i hon
      split
      · rename_i token htoken
        simp [fullOn, hon, htoken, Except.toBool] at h
      · rfl
    · rfl
  · split <;> rfl
  · rfl

-- =========================================================== one token at a time

/-- The ids of the pending connections. -/
def GameState.pendingIds (s : GameState) : List Nat := s.pending.map Pending.connId

/-- What handling an event does to the pending connections and their
tokens. -/
structure TokenStep (ev : Event) (s t : GameState) : Prop where
  pending : t.pending.Sublist s.pending
    ∨ ∃ e : Pending, ev.opens = some e.connId ∧ t.pending = s.pending ++ [e]
  token : ∀ c, t.fullToken c = ev.tokenAfter c (s.fullToken c)
    ∨ (t.fullToken c = none ∧ c ∈ s.pendingIds ∧ (s.pendingIds.Nodup → c ∉ t.pendingIds))

section Cache

variable {s t : GameState} {c : Nat}

/-- The token of one connection is gone, the others are there. -/
theorem fullToken_forgetFull (s : GameState) (connId c : Nat) :
    (s.forgetFull connId).fullToken c = if connId = c then none else s.fullToken c := by
  unfold fullToken forgetFull
  dsimp only
  rw [List.find?_filter]
  split
  · rename_i h
    rw [Option.map_eq_none_iff, List.find?_eq_none]
    intro e _
    simp [h]
  · rename_i h
    congr 2
    funext e
    by_cases he : e.1 = c
    · simp [he, Ne.symm h]
    · simp [he]

/-- A new token takes the place of the old one. -/
theorem fullToken_cache (s : GameState) (connId c : Nat) (token : UInt8 × UInt32) :
    ({ s with pendingFull := (s.pendingFull.filter fun e => e.1 != connId) ++ [(connId, token)] }
      : GameState).fullToken c = if connId = c then some token else s.fullToken c := by
  have hforget := fullToken_forgetFull s connId c
  unfold fullToken forgetFull at *
  dsimp only at *
  rw [List.find?_append]
  split
  · rename_i h
    rw [if_pos h, Option.map_eq_none_iff] at hforget
    rw [hforget]
    simp [h]
  · rename_i h
    rw [if_neg h] at hforget
    have hlast : [(connId, token)].find? (fun e => e.1 == c) = none := by simp [h]
    rw [hlast, Option.or_none]
    exact hforget

/-- The connection waits no more. -/
theorem pendingIds_unpend (hnd : s.pendingIds.Nodup) (connId : Nat) :
    connId ∉ (s.unpend connId).pendingIds := Lib.key_not_mem_eraseP hnd

/-- A connection that is found waits. -/
theorem mem_pendingIds_of_find? {e : Pending}
    (h : s.pending.find? (fun e => e.connId == c) = some e) :
    c ∈ s.pendingIds := by
  have hc : e.connId = c := by simpa using List.find?_some h
  exact hc ▸ List.mem_map_of_mem (List.mem_of_find?_eq_some h)

end Cache

-- ========================================================== the other handlers

/-- Every step in pieces, but none on the pending connections or their
tokens. -/
def cacheIdle (k : Kind) (_ : GameState) : Prop :=
  match k with
  | .queue | .cache => False
  | _ => k.fine = true

/-- Two states with the same pending connections and tokens. -/
def SameCache (s t : GameState) : Prop := t.pending = s.pending ∧ t.pendingFull = s.pendingFull

/-- What is the same twice is the same. -/
theorem SameCache.trans {s t u : GameState} (h₁ : SameCache s t) (h₂ : SameCache t u) :
    SameCache s u := ⟨h₂.1.trans h₁.1, h₂.2.trans h₁.2⟩

/-- A broadcast has nothing to do with waiting connections, be it built or
not. -/
theorem SameCache.broadcast? (s : GameState) (b : Option Packet) :
    SameCache s (s.broadcast? b) := by
  obtain ⟨_, _, _, he⟩ := s.broadcast?_eq b
  rw [he]
  exact ⟨rfl, rfl⟩

/-- The same, of one that was built. -/
theorem SameCache.broadcast (s : GameState) (b : Packet) : SameCache s (s.broadcast b) :=
  SameCache.broadcast? s (some b)

/-- What every command may do is among these steps. -/
theorem plain_cacheIdle : Plain cacheIdle := by
  intro k hk _
  cases k <;> first | rfl | cases hk

/-- Only a FULL frame and the end of a connection change its last token. -/
theorem Event.tokenAfter_of_not_caches {ev : Event} (h : ev.caches = false) (c : Nat)
    (last : Option (UInt8 × UInt32)) : ev.tokenAfter c last = last := by
  unfold tokenAfter
  split
  · split
    · rename_i hid
      simp [caches, hid.2] at h
    · rfl
  · cases h
  · rfl

/-- What leaves the cache alone is such a step, if the event is not about
tokens. -/
theorem SameCache.tokenStep {ev : Event} {s t : GameState} (h : SameCache s t)
    (hev : ∀ c last, ev.tokenAfter c last = last) : TokenStep ev s t where
  pending := .inl (h.1 ▸ List.Sublist.refl _)
  token c := by
    left
    rw [hev]
    unfold fullToken
    rw [h.2]

section Loop

variable [RustStd] {s t : GameState}

/-- These steps leave it alone. -/
theorem Step.sameCache {k : Kind} (h : Step k s t) (hk : cacheIdle k s) : SameCache s t := by
  cases h with
  | misc h => exact ⟨h.pending, h.pendingFull⟩
  | air b _ | airLag b _ | reset b _ => exact .broadcast s b
  | block b _ f => exact .broadcast ((s.relayPush (.push b)).record f) b
  | seat sid player _ _ _ _ info _ =>
      obtain ⟨_, he⟩ := sendOthersDirect?_eq _ player.pid info
      rw [he]
      exact ⟨rfl, rfl⟩
  | seatFake sid p _ _ _ _ _ info _ => exact .broadcast? _ info
  | host pid _ _ info _ => exact .broadcast? s info
  | unseat | unhost | unfake => exact .broadcast _ _
  | queue | cache => exact hk.elim
  | reap | begin | loaded | lagCheck | check | sendTurn => cases hk
  | _ => exact ⟨rfl, rfl⟩

/-- So does what is done in them. -/
theorem Does.sameCache (h : Does cacheIdle s t) : SameCache s t :=
  Lib.Path.relates (fun _ => ⟨rfl, rfl⟩) (fun _ _ _ => SameCache.trans)
    (fun _ _ _ hk hst => hst.sameCache hk) h

/-- An event about neither is made of them. -/
theorem admits_cacheIdle {ev : Event} (hq : ev.queues = false) (hc : ev.caches = false) :
    Admits cacheIdle s ev := by
  refine admits_fine ?_ { queue := ?_, cache := ?_ } fun _ _ _ => rfl
  · intro k hk hg t
    cases k <;> first | exact hk | cases hg
  · intro h
    rw [hq] at h
    cases h
  · intro h
    rw [hc] at h
    cases h

omit [RustStd] in
/-- A reconnect leaves the other connections and all tokens alone. -/
theorem sameCache_handleGpsReconnect (s : GameState) (connId : Nat) (req : ReconnectReq)
    (link : PlayerLink) : SameCache s (s.handleGpsReconnect connId req link).1 := by
  unfold handleGpsReconnect
  split
  · exact ⟨rfl, rfl⟩
  split
  · exact ⟨rfl, rfl⟩
  split
  · exact ⟨rfl, rfl⟩
  split
  · exact ⟨rfl, rfl⟩
  · exact ⟨rfl, rfl⟩

omit [RustStd] in
/-- A request to come back takes its connection off the list. -/
theorem tokenStep_onReconnectFrame {ev : Event} (hev : ∀ c last, ev.tokenAfter c last = last)
    (connId : Nat) (payload : List UInt8) : TokenStep ev s (s.onReconnectFrame connId payload) := by
  unfold onReconnectFrame
  split
  · rename_i req e _ _
    have hsame := sameCache_handleGpsReconnect (s.unpend connId) connId req e.link
    refine ⟨.inl ?_, fun c => .inl ?_⟩
    · rw [hsame.1]
      exact List.eraseP_sublist
    · rw [hev]
      unfold fullToken
      rw [hsame.2]
      rfl
  · exact SameCache.tokenStep ⟨rfl, rfl⟩ hev

omit [RustStd] in
/-- A rejoin spends the token of its connection. -/
theorem fullRejoin_cache (s : GameState) (connId : Nat) (pid : UInt8) (req : ReqJoin) (ip : Ip)
    (link : PlayerLink) : SameCache (s.forgetFull connId)
    (s.fullRejoin connId pid req ip link) := by
  have hsends : ∀ (l : List Packet) (t : GameState),
      SameCache t (l.foldl (fun s b => s.sendTo pid b) t) := by
    intro l
    induction l with
    | nil => exact fun t => ⟨rfl, rfl⟩
    | cons b l ih => exact fun t => ih (t.sendTo pid b)
  exact hsends _ _

/-- A join takes its connection off the list, and the token with it. -/
theorem tokenStep_handleReqJoin {ev : Event} (hs : WellFormed s)
    (hev : ∀ c last, ev.tokenAfter c last = last) (key : UInt32) (connId : Nat)
    (payload : List UInt8) : TokenStep ev s (s.handleReqJoin key connId payload) := by
  have hunpend : ∀ {t : GameState}, SameCache (s.unpend connId) t → TokenStep ev s t := by
    intro t ht
    refine ⟨.inl ?_, fun c => .inl ?_⟩
    · rw [ht.1]
      exact List.eraseP_sublist
    · rw [hev]
      unfold fullToken
      rw [ht.2]
      rfl
  unfold handleReqJoin
  split
  · exact SameCache.tokenStep ⟨rfl, rfl⟩ hev
  rename_i e he
  have hlink : e.link.sent = [] := hs.pending e (List.mem_of_find?_eq_some he)
  dsimp only
  split
  · exact hunpend ⟨rfl, rfl⟩
  rename_i req _
  split
  · split
    · rename_i t ht
      obtain ⟨pid, -, rfl⟩ := Option.map_eq_some_iff.1 ht
      have hsame := fullRejoin_cache (s.unpend connId) connId pid req e.externalIp e.link
      refine ⟨.inl ?_, fun c => ?_⟩
      · rw [hsame.1]
        exact List.eraseP_sublist
      -- the connection that spends its token is not pending any more
      have htoken : (fullRejoin (s.unpend connId) connId pid req e.externalIp e.link).fullToken c
          = if connId = c then none else s.fullToken c := by
        rw [← fullToken_forgetFull]
        unfold fullToken
        rw [hsame.2]
        rfl
      rw [htoken]
      split
      · rename_i hc
        subst hc
        refine .inr ⟨rfl, mem_pendingIds_of_find? he, fun hnd => ?_⟩
        unfold pendingIds
        rw [hsame.1]
        exact pendingIds_unpend hnd connId
      · exact .inl (hev _ _).symm
    · exact hunpend ⟨rfl, rfl⟩
  · rename_i hphase
    have hlobby : (s.unpend connId).phase = .lobby := by simpa using hphase
    have hpath : Does cacheIdle (s.unpend connId)
        ((s.unpend connId).joinLobby key connId e.link e.externalIp req) :=
      does_joinLobby plain_cacheIdle rfl rfl (fun _ _ _ => rfl) hlobby key connId _ hlink _ _
    exact hunpend hpath.sameCache

omit [RustStd] in
/-- A closed connection takes its token along. -/
theorem tokenStep_handleConnClosed (env : Env) (connId : Nat) (reason : Text) :
    TokenStep (.cmd env (.closed connId reason)) s (s.handleConnClosed connId reason) := by
  have htoken : ∀ c, (s.forgetFull connId).fullToken c
      = (Event.cmd env (.closed connId reason)).tokenAfter c (s.fullToken c) := by
    intro c
    rw [fullToken_forgetFull]
    rfl
  unfold handleConnClosed
  dsimp only
  split
  · exact ⟨.inl (List.Sublist.refl _), fun c => .inl (htoken c)⟩
  · exact ⟨.inl List.filter_sublist, fun c => .inl (htoken c)⟩

omit [RustStd] in
/-- A FULL frame is cached. -/
theorem tokenStep_full (env : Env) (connId : Nat) {id : UInt8} (hid : id = 0x05)
    (payload : List UInt8) :
    TokenStep (.cmd env (.frame connId (.gps id payload))) s (s.onGpsFrame connId id payload) := by
  subst hid
  have hframe : s.onGpsFrame connId 0x05 payload = match decodeFull payload with
      | .ok token => { s with
          pendingFull := (s.pendingFull.filter fun e => e.1 != connId) ++ [(connId, token)] }
      | .error _ => s := rfl
  rw [hframe]
  cases hfull : decodeFull payload with
  | error e =>
      refine SameCache.tokenStep ⟨rfl, rfl⟩ fun c last => ?_
      simp [Event.tokenAfter, hfull]
  | ok token =>
      refine ⟨.inl (List.Sublist.refl _), fun c => .inl ?_⟩
      dsimp only
      rw [fullToken_cache]
      by_cases hc : connId = c
      · simp [Event.tokenAfter, hfull, hc]
      · simp [Event.tokenAfter, hc]

/-- Handling an event keeps the tokens of the pending connections up to
date. -/
theorem handle_tokenStep (hs : WellFormed s) {ev : Event} (hsound : ev.Sound) :
    TokenStep ev s (s.handle ev) := by
  -- only connections, joins, leaves, closed links and reconnect frames touch the two
  by_cases hidle : ev.queues = false ∧ ev.caches = false
  · have hpath := does_handle hs hsound (admits_cacheIdle hidle.1 hidle.2)
    exact hpath.sameCache.tokenStep (Event.tokenAfter_of_not_caches hidle.2)
  cases ev with
  | elapse ms => exact absurd ⟨rfl, rfl⟩ hidle
  | tick skipped => exact absurd ⟨rfl, rfl⟩ hidle
  | cmd env c =>
      cases c with
      | newConn connId link ip =>
          refine ⟨.inr ⟨⟨connId, link, ip⟩, rfl, rfl⟩, fun c => .inl rfl⟩
      | closed connId reason => exact tokenStep_handleConnClosed env connId reason
      | frame connId f =>
          cases f with
          | dotaTv => exact absurd ⟨rfl, rfl⟩ hidle
          | w3gs id payload =>
              have hev : ∀ c last,
                (Event.cmd env (.frame connId (.w3gs id payload))).tokenAfter c last
                  = last := fun _ _ => rfl
              by_cases hjoin : id = 0x1E
              · subst hjoin
                exact tokenStep_handleReqJoin hs hev env.reconnectKey connId payload
              by_cases hleave : id = 0x21
              · subst hleave
                show TokenStep _ s (s.handleLeave connId _)
                unfold handleLeave
                split
                · exact SameCache.tokenStep ⟨rfl, rfl⟩ hev
                · exact ⟨.inl List.filter_sublist, fun c => .inl rfl⟩
              · exact absurd (by simp [Event.queues, Event.caches, hjoin, hleave]) hidle
          | gps id payload =>
              -- the FULL frame carries the token that the cache then keeps
              by_cases hfull : id = 0x05
              · exact tokenStep_full env connId hfull payload
              by_cases hre : id = 0x02
              · subst hre
                exact tokenStep_onReconnectFrame (fun _ _ => by simp [Event.tokenAfter])
                  connId payload
              · exact absurd (by simp [Event.queues, Event.caches, hfull, hre]) hidle
          | iccupGps id payload =>
              by_cases hre : id = 0x16
              · subst hre
                exact tokenStep_onReconnectFrame (fun _ _ => rfl) connId payload
              · exact absurd (by simp [Event.queues, Event.caches, hre]) hidle
      | _ => exact absurd ⟨rfl, rfl⟩ hidle

/-- The reaping and the report leave the pending connections alone. -/
theorem step_sameCache (hs : WellFormed s) (hlive : s.finished = false) {ev : Event}
    (hsound : ev.Sound) : SameCache (s.handle ev) (s.step ev) := by
  have hs' : WellFormed (s.handle ev) :=
    (does_handle hs hsound (admits_anyFine s ev)).keeps_wellFormed hs
  have hpath := (does_reapLeftPlayers plain_cacheIdle (fun _ => rfl) (fun _ => rfl)
    (fun _ => rfl) (fun _ _ => rfl) hs').trans (does_reportLobby plain_cacheIdle _)
  unfold step
  rw [if_neg (by simp [hlive])]
  split
  · exact ⟨rfl, rfl⟩
  · exact ⟨rfl, rfl⟩
  · exact hpath.sameCache

/-- Every iteration of a game that is not over. -/
theorem step_tokenStep (hs : WellFormed s) (hlive : s.finished = false) {ev : Event}
    (hsound : ev.Sound) : TokenStep ev s (s.step ev) := by
  have hhandle := handle_tokenStep hs hsound
  have hsame := step_sameCache hs hlive hsound
  refine ⟨?_, fun c => ?_⟩
  · rw [hsame.1]
    exact hhandle.pending
  · unfold pendingIds fullToken
    rw [hsame.1, hsame.2]
    exact hhandle.token c

end Loop

-- ====================================================================== runs

/-- The invariant: the tokens of the pending connections are those they
sent last. A connection that has spent its token was opened, and is not
pending any more. -/
structure TokenInv (opened : List Nat) (last : Nat → Option (UInt8 × UInt32)) (s : GameState) :
    Prop where
  known : ∀ c ∈ s.pendingIds, c ∈ opened
  nodup : s.pendingIds.Nodup
  token : ∀ c, s.fullToken c = last c ∨ (c ∈ opened ∧ c ∉ s.pendingIds)

/-- Such a step keeps the invariant. -/
theorem TokenInv.step {opened : List Nat} {last : Nat → Option (UInt8 × UInt32)} {s t : GameState}
    {ev : Event} (h : TokenInv opened last s) (hstep : TokenStep ev s t)
    (hnew : ∀ c, ev.opens = some c → c ∉ opened) :
    TokenInv (opened ++ ev.opens.toList) (fun c => ev.tokenAfter c (last c)) t := by
  have hids : t.pendingIds.Sublist s.pendingIds
      ∨ ∃ c, ev.opens = some c ∧ t.pendingIds = s.pendingIds ++ [c] := by
    unfold pendingIds
    rcases hstep.pending with hsub | ⟨e, he, hp⟩
    · exact .inl (hsub.map _)
    · refine .inr ⟨e.connId, he, ?_⟩
      rw [hp, List.map_append]
      rfl
  refine ⟨fun c hc => ?_, ?_, fun c => ?_⟩
  · rcases hids with hsub | ⟨e, he, hp⟩
    · exact List.mem_append_left _ (h.known c (hsub.subset hc))
    · rw [hp, List.mem_append, List.mem_singleton] at hc
      rcases hc with hc | rfl
      · exact List.mem_append_left _ (h.known c hc)
      · exact List.mem_append_right _ (by simp [he])
  · rcases hids with hsub | ⟨e, he, hp⟩
    · exact h.nodup.sublist hsub
    · rw [hp]
      refine List.Nodup.append h.nodup (List.nodup_singleton e) ?_
      intro c hc hce
      rw [List.mem_singleton.1 hce] at hc
      exact hnew e he (h.known e hc)
  · have hgone : c ∈ opened → c ∉ s.pendingIds → c ∉ t.pendingIds := by
      intro ho hn hc
      rcases hids with hsub | ⟨e, he, hp⟩
      · exact hn (hsub.subset hc)
      · rw [hp, List.mem_append, List.mem_singleton] at hc
        rcases hc with hc | rfl
        · exact hn hc
        · exact hnew c he ho
    rcases h.token c with hlast | ⟨ho, hn⟩
    · rcases hstep.token c with ht | ⟨-, hin, hout⟩
      · exact .inl (by rw [ht, hlast])
      · exact .inr ⟨List.mem_append_left _ (h.known c hin), hout h.nodup⟩
    · exact .inr ⟨List.mem_append_left _ ho, hgone ho hn⟩

section Runs

variable [RustStd]

/-- One event more. -/
theorem run_concat (s : GameState) (evs : List Event) (ev : Event) :
    s.run (evs ++ [ev]) = (s.run evs).step ev := by
  simp [run]

/-- A game that is not over was not over. -/
theorem finished_of_step {s : GameState} {ev : Event} (h : (s.step ev).finished = false) :
    s.finished = false := by
  by_contra hf
  have hfin : s.finished = true := by simpa using hf
  unfold step at h
  rw [if_pos hfin, hfin] at h
  cases h

/-- The invariant holds while the loop runs, if no connection number is
handed out twice. -/
theorem run_tokenInv (cfg : GameConfig) (now : Nat) (seed : UInt32) {evs : List Event}
    (hsound : ∀ ev ∈ evs, ev.Sound) (hnew : (evs.filterMap Event.opens).Nodup)
    (hlive : ((GameState.new cfg now seed).run evs).finished = false) :
    WellFormed ((GameState.new cfg now seed).run evs)
      ∧ TokenInv (evs.filterMap Event.opens) (lastFull evs)
        ((GameState.new cfg now seed).run evs) := by
  induction evs using List.reverseRecOn with
  | nil =>
      refine ⟨new_wellFormed cfg now seed, ⟨?_, List.nodup_nil, fun c => .inl rfl⟩⟩
      intro c hc
      cases hc
  | append_singleton evs ev ih =>
      rw [run_concat] at hlive ⊢
      have hlive' := finished_of_step hlive
      rw [List.filterMap_append, List.nodup_append] at hnew
      obtain ⟨hs, hinv⟩ := ih (fun e he => hsound e (List.mem_append_left _ he)) hnew.1 hlive'
      have hev : ev.Sound := hsound ev (List.mem_append_right _ (List.mem_singleton.2 rfl))
      refine ⟨step_wellFormed hs hev, ?_⟩
      have hnext := hinv.step (step_tokenStep hs hlive' hev) ?_
      · have hopened : (evs ++ [ev]).filterMap Event.opens
            = evs.filterMap Event.opens ++ ev.opens.toList := by
          rw [List.filterMap_append]
          cases h : ev.opens <;> simp [h]
        rw [hopened]
        have hlast : lastFull (evs ++ [ev]) = fun c => ev.tokenAfter c (lastFull evs c) :=
          funext (lastFull_concat evs ev)
        rw [hlast]
        exact hnext
      · intro c hc hin
        exact hnew.2.2 c hin c (by simp [hc]) rfl

/-- Without a FULL frame on the connection, a token that is gone stays
gone. -/
theorem fullToken_stays_none {s : GameState} (hs : WellFormed s) {c : Nat}
    (hnone : s.fullToken c = none) {evs : List Event}
    (hevs : ∀ ev ∈ evs, ev.Sound ∧ ev.fullOn c = false) : (s.run evs).fullToken c = none := by
  induction evs generalizing s with
  | nil => exact hnone
  | cons ev evs ih =>
      obtain ⟨hsound, hfull⟩ := hevs ev List.mem_cons_self
      refine ih (s := s.step ev) (step_wellFormed hs hsound) ?_
        fun e he => hevs e (List.mem_cons_of_mem _ he)
      by_cases hlive : s.finished = false
      · rcases (step_tokenStep hs hlive hsound).token c with ht | ⟨ht, -, -⟩
        · rw [ht, hnone]
          exact Event.tokenAfter_none hfull
        · exact ht
      · unfold step
        rw [if_pos (by simpa using hlive)]
        exact hnone

/-- The player at the table that a token entitles to rejoin under a
name. -/
structure Entitled (s : GameState) (token : UInt8 × UInt32) (name : Text) (p : Player) : Prop where
  seated : p ∈ s.players
  pid : p.pid = token.1
  left : p.left = none
  held : p.disconnectedSince.isSome
  key : p.reconnectKey = token.2
  name : eqIgnoreAsciiCase p.name name = true

omit [RustStd] in
/-- The seat `try_full_rejoin` gives is that of the entitled player. -/
theorem fullRejoinSeat_iff {s : GameState} (hs : WellFormed s)
    (hphase : s.phase = .loading ∨ s.phase = .playing) (c : Nat) (name : Text) (pid : UInt8) :
    s.fullRejoinSeat c name = some pid
      ↔ ∃ token p, s.fullToken c = some token ∧ Entitled s token name p ∧ p.pid = pid := by
  unfold fullRejoinSeat
  rw [if_pos hphase.symm]
  cases htoken : s.fullToken c with
  | none => simp
  | some token =>
      obtain ⟨tokenPid, key⟩ := token
      dsimp only
      constructor
      · intro h
        split at h
        · cases h
        rename_i p hp
        split at h
        · rename_i hok
          obtain ⟨hheld, hleft, hname, hkey⟩ := hok
          refine ⟨_, p, rfl,
            ⟨List.mem_of_find?_eq_some hp, byPid_pid hp, by simpa using hleft, hheld, hkey, hname⟩,
            ?_⟩
          rw [byPid_pid hp]
          exact Option.some.inj h
        · cases h
      · rintro ⟨token, p, he, hp, rfl⟩
        cases he
        have hfind : s.players.byPid tokenPid = some p := by
          have h := Lib.find?_key_of_mem hs.pids hp.seated
          rw [hp.pid] at h
          exact h
        rw [hfind]
        dsimp only
        rw [if_pos ⟨hp.held, by simpa using hp.left, hp.name, hp.key⟩, hp.pid]

omit [RustStd] in
/-- A rejoin attaches the connection to its seat. -/
theorem fullRejoin_attaches {s : GameState} {pid : UInt8} {p : Player} (hp : p ∈ s.players)
    (hpid : p.pid = pid) (c : Nat) (req : ReqJoin) (ip : Ip) (link : PlayerLink) :
    ∃ q ∈ (s.fullRejoin c pid req ip link).players, q.connId = c ∧ q.pid = pid := by
  let seat := fun q : Player => (q.connId, q.pid)
  have hsends : ∀ (l : List Packet) (t : GameState),
      (l.foldl (fun s b => s.sendTo pid b) t).players.map seat = t.players.map seat := by
    intro l
    induction l with
    | nil => exact fun t => rfl
    | cons b l ih =>
        intro t
        refine (ih _).trans (Lib.map_updateFirst fun x _ => ?_)
        have hkept := x.kept_receive t.now b
        exact Prod.ext hkept.connId hkept.pid
  obtain ⟨q, hq⟩ : ∃ q, s.players.byPid pid = some q := by
    cases h : s.players.byPid pid with
    | none => exact absurd (List.find?_eq_none.1 h p hp) (by simp [hpid])
    | some q => exact ⟨q, rfl⟩
  have hfind : (s.players.modifyPid pid fun p => p.attachFull c link).byPid pid
      = some (q.attachFull c link) := by
    have h := Lib.find?_updateFirst (q := fun p : Player => p.pid == pid)
      (f := fun p => p.attachFull c link) (l := s.players) fun x _ hx => hx
    exact h.trans (congrArg _ hq)
  have hmem : seat (q.attachFull c link) ∈ (s.fullRejoin c pid req ip link).players.map seat := by
    unfold fullRejoin
    dsimp only
    rw [hsends]
    exact List.mem_map_of_mem (List.mem_of_find?_eq_some hfind)
  obtain ⟨r, hr, he⟩ := List.mem_map.1 hmem
  obtain ⟨hc, hpid⟩ := Prod.mk.inj he
  exact ⟨r, hr, hc, hpid.trans (byPid_pid hfind)⟩

/-- REQ_JOIN on a pending connection after the lobby: a FULL rejoin, or a
refusal. -/
theorem handleReqJoin_started {s : GameState} (hphase : s.phase = .loading ∨ s.phase = .playing)
    {c : Nat} (hpend : c ∈ s.pendingIds) {payload : List UInt8} {req : ReqJoin}
    (hreq : ReqJoin.decode payload = .ok req) (key : UInt32) :
    ∃ ip link, s.handleReqJoin key c payload = match s.fullRejoinSeat c req.name with
      | some pid => (s.unpend c).fullRejoin c pid req ip link
      | none => (s.unpend c).refuse c (.rejectJoin rejectStarted) := by
  obtain ⟨e₀, he₀, hc⟩ := List.mem_map.1 hpend
  cases he : s.pending.find? fun e => e.connId == c with
  | none => exact absurd (List.find?_eq_none.1 he e₀ he₀) (by simp [hc])
  | some e =>
      refine ⟨e.externalIp, e.link, ?_⟩
      have hlobby : (s.unpend c).phase ≠ .lobby := by
        show s.phase ≠ .lobby
        rcases hphase with h | h <;> simp [h]
      have hseat : (s.unpend c).fullRejoinSeat c req.name = s.fullRejoinSeat c req.name := rfl
      unfold handleReqJoin
      rw [he]
      dsimp only
      rw [hreq]
      dsimp only
      rw [if_pos hlobby, tryFullRejoin, hseat]
      cases s.fullRejoinSeat c req.name <;> rfl

/-- While the loop runs and no connection number is handed out twice, a
well-formed REQ_JOIN on a pending connection of a game that is loading
or playing is attached to a seat exactly if the latest FULL frame on
that connection carried the token of a held player of that name, and
then to that player's seat; otherwise it is refused and nothing else
changes. A token that was spent attaches nothing until the connection
sends another FULL frame. -/
theorem full_rejoin_authenticated {cfg : GameConfig} {now : Nat} {seed : UInt32} {evs : List Event}
    {s : GameState} (hrun : s = (GameState.new cfg now seed).run evs)
    (hsound : ∀ ev ∈ evs, ev.Sound) (hnew : (evs.filterMap Event.opens).Nodup)
    (hlive : s.finished = false) (hphase : s.phase = .loading ∨ s.phase = .playing) {c : Nat}
    (hpend : c ∈ s.pendingIds) {payload : List UInt8} {req : ReqJoin}
    (hreq : ReqJoin.decode payload = .ok req) {env : Env} {ev : Event}
    (hev : ev = .cmd env (.frame c (.w3gs 0x1E payload))) (hevs : ev.Sound) :
    ((∀ p ∈ s.players, p.connId ≠ c) → ((∃ q ∈ (s.handle ev).players, q.connId = c)
        ↔ ∃ token p, lastFull evs c = some token ∧ Entitled s token req.name p))
      ∧ (∀ token p, lastFull evs c = some token → Entitled s token req.name p →
        (∃ q ∈ (s.handle ev).players, q.connId = c ∧ q.pid = p.pid)
          ∧ ∀ later, (∀ e ∈ later, e.Sound ∧ e.fullOn c = false) → ∀ req ip link,
            ((s.step ev).run later).tryFullRejoin c req ip link = none)
      ∧ ((¬∃ token p, lastFull evs c = some token ∧ Entitled s token req.name p) →
        (s.handle ev).players = s.players ∧ (s.handle ev).slots = s.slots
          ∧ (s.handle ev).phase = s.phase
          ∧ (s.handle ev).refused = s.refused ++ [(c, .rejectJoin rejectStarted)]) := by
  subst hrun
  obtain ⟨hs, hinv⟩ := run_tokenInv cfg now seed hsound hnew hlive
  generalize (GameState.new cfg now seed).run evs = s at *
  have htoken : s.fullToken c = lastFull evs c := by
    rcases hinv.token c with h | ⟨-, hout⟩
    · exact h
    · exact absurd hpend hout
  obtain ⟨ip, link, hjoin⟩ := handleReqJoin_started hphase hpend hreq env.reconnectKey
  have hhandle : s.handle ev = s.handleReqJoin env.reconnectKey c payload := by
    subst hev
    rfl
  rw [← hhandle] at hjoin
  have hseat := fullRejoinSeat_iff hs hphase c req.name
  rw [htoken] at hseat
  cases hfull : s.fullRejoinSeat c req.name with
  | none =>
      rw [hfull] at hjoin
      dsimp only at hjoin
      have hno : ∀ token p, lastFull evs c = some token → ¬Entitled s token req.name p := by
        intro token p ht hp
        have h := (hseat p.pid).2 ⟨token, p, ht, hp, rfl⟩
        rw [hfull] at h
        cases h
      refine ⟨fun hfree => ⟨?_, ?_⟩, fun token p ht hp => absurd hp (hno token p ht), fun _ => ?_⟩
      · rintro ⟨q, hq, hc⟩
        rw [hjoin] at hq
        exact absurd hc (hfree q hq)
      · rintro ⟨token, p, ht, hp⟩
        exact absurd hp (hno token p ht)
      · rw [hjoin]
        exact ⟨rfl, rfl, rfl, rfl⟩
  | some pid =>
      rw [hfull] at hjoin
      dsimp only at hjoin
      obtain ⟨token, p, ht, hp, hpid⟩ := (hseat pid).1 hfull
      have hattached : ∃ q ∈ (s.handle ev).players, q.connId = c ∧ q.pid = pid := by
        rw [hjoin]
        exact fullRejoin_attaches (s := s.unpend c) hp.seated hpid c req ip link
      -- the rejoin has spent the token
      have hspent : (s.step ev).fullToken c = none := by
        have hgone := fullToken_forgetFull (s.unpend c) c c
        rw [if_pos rfl] at hgone
        unfold fullToken at hgone ⊢
        rw [(step_sameCache hs hlive hevs).2, hjoin,
          (fullRejoin_cache (s.unpend c) c pid req ip link).2]
        exact hgone
      refine ⟨fun _ => ⟨fun _ => ⟨token, p, ht, hp⟩, fun _ => ?_⟩, fun token' p' ht' hp' =>
        ⟨?_, ?_⟩, fun h => absurd ⟨token, p, ht, hp⟩ h⟩
      · obtain ⟨q, hq, hc, -⟩ := hattached
        exact ⟨q, hq, hc⟩
      · have hsame : token' = token := Option.some.inj (ht'.symm.trans ht)
        rw [hp'.pid, hsame, ← hp.pid, hpid]
        exact hattached
      · intro later hlater req' ip' link'
        have hnone := fullToken_stays_none (step_wellFormed hs hevs) hspent hlater
        unfold tryFullRejoin
        rw [Option.map_eq_none_iff]
        unfold fullRejoinSeat
        rw [hnone, ite_self]

end Runs

section Scenarios

open Scenario

/-- The first player uses GProxy, loses its connection and comes back
with a FULL token. -/
def tokenGame : List Event :=
  twoPlay PlayerLink.drained PlayerLink.drained ++ [hello 1, .elapse 100, .tick 0, closed 1,
    connect 3 PlayerLink.drained, full 3 1]

/-- The player is back under its name, and its token was the one. -/
theorem full_rejoin_authenticated_tokenGame :
    (∃ q ∈ ((lobby.run tokenGame).handle (join 3 (txt "Ann"))).players, q.connId = 3)
      ∧ ∃ token p, lastFull tokenGame 3 = some token
        ∧ Entitled (lobby.run tokenGame) token (txt "Ann") p := by
  have hrun : lobby.run tokenGame = (GameState.new config 0 5).run tokenGame := rfl
  have hpend : 3 ∈ (lobby.run tokenGame).pendingIds := by decide +kernel
  have hreq : ReqJoin.decode (u32le 1 ++ u32le 0 ++ [0] ++ u16le 6112 ++ u32le 0 ++ txt "Ann" ++ [0]
      ++ [0, 0, 0, 0, 0, 0] ++ [10, 0, 0, 1]) = .ok ⟨1, 0, 6112, 0, txt "Ann", ⟨10, 0, 0, 1⟩⟩ := by
    decide +kernel
  have hjoin := full_rejoin_authenticated hrun (by decide +kernel) (by decide +kernel)
    (by decide +kernel) (by decide +kernel) hpend hreq
    (rfl : join 3 (txt "Ann") = cmd (.frame 3 (.w3gs 0x1E _))) (by decide +kernel)
  have hattached : ∃ q ∈ ((lobby.run tokenGame).handle (join 3 (txt "Ann"))).players,
    q.connId = 3 := by
    decide +kernel
  exact ⟨hattached, (hjoin.1 (by decide +kernel)).1 hattached⟩

end Scenarios

end Spectre
