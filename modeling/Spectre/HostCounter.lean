/-
Which game a status report is about.

A status report carries a number, and the supervisor looks it up in the
numbers its games are listed under. It gives each game a number of its
own, and while no game changes its number every report finds the game
that sent it and no other (`status_reaches_sender`).

A game that is put up again under another name does change its number,
by one, and nobody tells the supervisor: from then on its reports carry
the number of the game that was hosted next, and go to that game's
advert.
-/
import Spectre.Ports

namespace Spectre.Hosting

open GameState

-- ============================================================ the number of a game

/-- Every kind of small step but a new name for the lobby. -/
def anyNamed : Kind → GameState → Prop
  | .rehost, _ => False
  | k, _ => k.fine = true

theorem fine_of_anyNamed {k : Kind} {s : GameState} (h : anyNamed k s) : k.fine = true := by
  cases k with
  | rehost => exact h.elim
  | _ => exact h

/-- The game has the number `n`, and so have all its reports. -/
structure Numbered (n : Nat) (s : GameState) : Prop where
  number : s.cfg.hostCounter = n
  events : ∀ e ∈ s.events, e.hostCounter = n

section Game

variable [RustStd] {n : Nat} {s t : GameState}

omit [RustStd] in
theorem Numbered.of_books (hs : Numbered n s) {r : Option ReplayBody} {d : Option StatsDotA}
    (h : t.books = (r, d, s.cfg.hostCounter, s.events)) : Numbered n t where
  number := (congrArg (fun b => b.2.2.1) h).trans hs.number
  events e he := hs.events e ((congrArg (fun b => b.2.2.2) h : t.events = s.events) ▸ he)

/-- A small step keeps the number, and reports under it. -/
theorem Step.numbered {k : Kind} (h : Step k s t) (hk : anyNamed k s) (hs : Numbered n s) :
    Numbered n t := by
  rcases h.books (fine_of_anyNamed hk) with hentry | ⟨-, f, c, -, -, -, hbooks⟩ | hbooks
  · cases hentry with
    | none h => exact hs.of_books h
    | record _ _ _ _ _ _ h => exact hs.of_books h
    | leaver _ _ _ _ _ _ h => exact hs.of_books h
    | prologue _ => exact hs.of_books (t := s.startReplay) rfl
    | stats _ _ _ h => exact hs.of_books h
    | status e he h =>
        have hevents : t.events = s.events ++ [e] := congrArg (fun b => b.2.2.2) h
        refine ⟨(congrArg (fun b => b.2.2.1) h).trans hs.number, fun e' he' => ?_⟩
        rw [hevents, List.mem_append, List.mem_singleton] at he'
        rcases he' with he' | rfl
        · exact hs.events e' he'
        · exact he.trans hs.number
    | rehost _ _ => exact hk.elim
  · exact hs.of_books hbooks
  · exact hs.of_books hbooks

/-- An iteration that does not rename the lobby admits no new number. -/
theorem admits_anyNamed {ev : Event} (h : s.rehosts ev = false) : Admits anyNamed s ev := by
  refine admits_fine (fun k hk hguarded _ => ?_) ?_ fun _ _ _ => rfl
  · cases k with
    | rehost => cases hguarded
    | _ => exact hk
  · exact
      { rehost := fun hre => absurd hre (by rw [h]; exact Bool.false_ne_true)
        record := fun _ _ _ => rfl }

theorem step_numbered (hs : WellFormed s) {ev : Event} (hsound : ev.Sound)
    (hre : s.rehosts ev = false) (hn : Numbered n s) : Numbered n (s.step ev) := by
  have hkeep : ∀ k s t, anyNamed k s → Step k s t → Numbered n s → Numbered n t :=
    fun _ _ _ hk hst hI => Step.numbered hst hk hI
  exact Lib.Path.preserves hkeep (does_step hs hsound (admits_anyNamed hre)) hn

end Game

-- ========================================================== the numbers of all games

namespace System

/-- The numbers of the games, by handle. -/
def numbers (sys : System) : List Nat := sys.actors.map fun a => a.game.cfg.hostCounter

/-- The next thing the actor does is to rename its lobby. -/
def rehosts [RustStd] (sys : System) : HostEvent → Bool
  | .act h env =>
      match sys.actors[h]? with
      | some a =>
          match a.inbox with
          | c :: _ => !a.exited && !a.game.finished && a.game.rehosts (.cmd env c)
          | [] => false
      | none => false
  | _ => false

/-- Every game has a number of its own, under which the supervisor lists
it, and which its reports carry. -/
structure Counted (sys : System) : Prop where
  below : ∀ n ∈ sys.numbers, n < sys.sup.hostCounter
  bound : sys.sup.hostCounter ≤ 2 ^ 28
  distinct : sys.numbers.Nodup
  events : ∀ a ∈ sys.actors, ∀ e ∈ a.game.events, e.hostCounter = a.game.cfg.hostCounter
  statuses : ∀ x ∈ sys.statuses, sys.numbers[x.1]? = some x.2.hostCounter
  listed : ∀ g ∈ sys.sup.games, sys.numbers[g.handle]? = some g.hostCounter
  adverts : ∀ g ∈ sys.sup.games, ∀ adv, g.advert = some adv → adv.hostCounter = g.hostCounter
  current : ∀ adv, sys.sup.currentGameAdvert = some adv →
    ∃ h, sys.sup.currentGame = some h ∧ sys.numbers[h]? = some adv.hostCounter

theorem Counted.start : Counted {} where
  below n hn := (List.not_mem_nil hn).elim
  bound := by decide
  distinct := List.nodup_nil
  events a ha := (List.not_mem_nil ha).elim
  statuses x hx := (List.not_mem_nil hx).elim
  listed g hg := (List.not_mem_nil hg).elim
  adverts g hg := (List.not_mem_nil hg).elim
  current adv hadv := nomatch hadv

variable {sys t : System}

/-- Two games with one number are the same game. -/
theorem Counted.eq_of_number (hc : sys.Counted) {h h' n : Nat} (hh : sys.numbers[h]? = some n)
    (hh' : sys.numbers[h']? = some n) : h = h' := by
  obtain ⟨hlt, heq⟩ := List.getElem?_eq_some_iff.1 hh
  obtain ⟨hlt', heq'⟩ := List.getElem?_eq_some_iff.1 hh'
  exact (hc.distinct.getElem_inj_iff).1 (heq.trans heq'.symm)

/-- Games that fewer reports are on the way from, and of which fewer are
listed, stay counted. -/
theorem Counted.of_sub (hc : sys.Counted)
    (hactors : t.actors.map Actor.game = sys.actors.map Actor.game)
    (hcounter : t.sup.hostCounter = sys.sup.hostCounter)
    (hstatuses : ∀ x ∈ t.statuses, x ∈ sys.statuses) (hgames : ∀ g ∈ t.sup.games, g ∈ sys.sup.games)
    (hcurrent : ∀ adv, t.sup.currentGameAdvert = some adv →
      ∃ h, t.sup.currentGame = some h ∧ sys.numbers[h]? = some adv.hostCounter) : t.Counted := by
  have hnumbers : t.numbers = sys.numbers := by
    have hmap := congrArg (List.map fun s : GameState => s.cfg.hostCounter) hactors
    rwa [List.map_map, List.map_map] at hmap
  constructor
  · rw [hnumbers, hcounter]
    exact hc.below
  · rw [hcounter]
    exact hc.bound
  · rw [hnumbers]
    exact hc.distinct
  · intro a ha
    have hmem : a.game ∈ sys.actors.map Actor.game := hactors ▸ List.mem_map_of_mem ha
    obtain ⟨b, hb, hgame⟩ := List.mem_map.1 hmem
    rw [← hgame]
    exact hc.events b hb
  · rw [hnumbers]
    exact fun x hx => hc.statuses x (hstatuses x hx)
  · rw [hnumbers]
    exact fun g hg => hc.listed g (hgames g hg)
  · exact fun g hg => hc.adverts g (hgames g hg)
  · rw [hnumbers]
    exact hcurrent

/-- An update of an actor that leaves its game alone. -/
theorem map_game_modify {f : Actor → Actor} (hf : ∀ a, (f a).game = a.game) (h : Nat)
    (actors : List Actor) : (actors.modify h f).map Actor.game = actors.map Actor.game := by
  refine List.ext_getElem? fun i => ?_
  rw [List.getElem?_map, List.getElem?_map, List.getElem?_modify]
  cases actors[i]? with
  | none => rfl
  | some a =>
      by_cases hi : h = i
      · simp [hi, hf]
      · simp [hi]

theorem map_game_send (sys : System) (h : Nat) (c : GameCmd) :
    (sys.send h c).actors.map Actor.game = sys.actors.map Actor.game :=
  map_game_modify (fun a => (actor_send a c).1) h sys.actors

/-- A new game gets the next number. -/
theorem Counted.createGame [RustStd] {cfg : HostConfig} (hc : sys.Counted)
    (hfew : sys.sup.hostCounter < 2 ^ 28) (sp : Spawn) (name owner : Text) (isPublic : Bool) :
    (sys.createGame cfg sp name owner isPublic).Counted := by
  have hmod : sys.sup.hostCounter % 2 ^ 28 = sys.sup.hostCounter := Nat.mod_eq_of_lt hfew
  have hnext : (sys.sup.hostCounter + 1) % 2 ^ 32 = sys.sup.hostCounter + 1 :=
    Nat.mod_eq_of_lt (by omega)
  unfold System.createGame
  dsimp only
  rw [hmod, hnext]
  split
  · exact
      { hc with
        below := fun n hn => Nat.lt_succ_of_lt (hc.below n hn)
        bound := hfew }
  · rename_i port sup halloc
    obtain ⟨-, rfl⟩ := allocatePort_spec halloc
    have hlen : sys.numbers.length = sys.actors.length := List.length_map _
    have hold : ∀ {h n : Nat}, sys.numbers[h]? = some n →
        (sys.numbers ++ [sys.sup.hostCounter])[h]? = some n := by
      intro h n hh
      rw [List.getElem?_append_left (List.getElem?_eq_some_iff.1 hh).1]
      exact hh
    have hnew : (sys.numbers ++ [sys.sup.hostCounter])[sys.actors.length]?
        = some sys.sup.hostCounter := by
      rw [← hlen, List.getElem?_concat_length]
    -- the numbers of the new system are the old ones and the next
    generalize ht : System.mk _ _ _ _ _ = t
    have hnumbers : t.numbers = sys.numbers ++ [sys.sup.hostCounter] := by
      rw [← ht]
      simp [numbers, GameState.new]
    subst ht
    constructor
    · intro n hn
      rw [hnumbers, List.mem_append, List.mem_singleton] at hn
      rcases hn with hn | rfl
      · exact Nat.lt_succ_of_lt (hc.below n hn)
      · exact Nat.lt_succ_self _
    · exact hfew
    · rw [hnumbers, List.nodup_append]
      refine ⟨hc.distinct, List.nodup_singleton _, fun a ha b hb hab => ?_⟩
      rw [List.mem_singleton] at hb
      have hlt := hc.below a ha
      omega
    · intro a ha e he
      rcases List.mem_append.1 ha with ha | ha
      · exact hc.events a ha e he
      · rw [List.mem_singleton.1 ha] at he
        exact (List.not_mem_nil he).elim
    · rw [hnumbers]
      exact fun x hx => hold (hc.statuses x hx)
    · rw [hnumbers]
      intro g hg
      rcases List.mem_append.1 hg with hg | hg
      · exact hold (hc.listed g hg)
      · rw [List.mem_singleton.1 hg]
        exact hnew
    · intro g hg adv hadv
      rcases List.mem_append.1 hg with hg | hg
      · exact hc.adverts g hg adv hadv
      · rw [List.mem_singleton.1 hg] at hadv ⊢
        rw [← Option.some.inj hadv]
    · rw [hnumbers]
      intro adv hadv
      rw [← Option.some.inj hadv]
      exact ⟨sys.actors.length, rfl, hnew⟩

/-- The cleanup makes the last listed game the current one, if the
current one has exited. -/
theorem Counted.cleanFinishedGames (hc : sys.Counted) : sys.cleanFinishedGames.Counted := by
  have hkept : ∀ g ∈ sys.sup.games.filter (fun g => !sys.isClosed g.handle), g ∈ sys.sup.games :=
    fun g hg => List.mem_of_mem_filter hg
  unfold System.cleanFinishedGames
  dsimp only
  split
  · split
    · refine hc.of_sub rfl rfl (fun x hx => hx) hkept fun adv hadv => ?_
      obtain ⟨g, hlast, hgadv⟩ := Option.bind_eq_some_iff.1 hadv
      have hg := hkept g (List.mem_of_getLast? hlast)
      refine ⟨g.handle, by rw [hlast]; rfl, ?_⟩
      rw [hc.listed g hg, hc.adverts g hg adv hgadv]
    · exact hc.of_sub rfl rfl (fun x hx => hx) hkept hc.current
  · exact hc.of_sub rfl rfl (fun x hx => hx) hkept hc.current

/-- The game that a report is about. -/
theorem Counted.report_iff (hc : sys.Counted) {h : Nat} {e : LobbyStatus}
    {rest : List (Nat × LobbyStatus)} (hnext : sys.statuses = (h, e) :: rest) {h' n : Nat}
    (hn : sys.numbers[h']? = some n) : n = e.hostCounter ↔ h' = h := by
  have he : sys.numbers[h]? = some e.hostCounter :=
    hc.statuses (h, e) (hnext ▸ List.mem_cons_self)
  constructor
  · rintro rfl
    exact hc.eq_of_number hn he
  · rintro rfl
    exact Option.some.inj (hn.symm.trans he)

/-- No two listed games have one number. -/
theorem Counted.nodup_listed (hc : sys.Counted) (ha : sys.Agrees) :
    (sys.sup.games.map ActiveGame.hostCounter).Nodup := by
  have hhandles := ha.handles
  rw [List.map_map] at hhandles
  refine List.pairwise_map.2 ((List.pairwise_map.1 hhandles).imp_of_mem ?_)
  intro g g' hg hg' hne heq
  exact hne (hc.eq_of_number (hc.listed g hg) (heq ▸ hc.listed g' hg'))

/-- A report goes to the advert of the game that sent it, and to no
other. -/
theorem Counted.handleStatus_games (hc : sys.Counted) (ha : sys.Agrees) {h : Nat} {e : LobbyStatus}
    {rest : List (Nat × LobbyStatus)} (hnext : sys.statuses = (h, e) :: rest) :
    sys.handleStatus.sup.games
        = sys.sup.games.map (fun g => if g.handle = h then g.report e else g)
      ∧ sys.handleStatus.sup.currentGameAdvert = sys.sup.currentGameAdvert.map fun adv =>
        if sys.sup.currentGame = some h then adv.report e else adv := by
  have hgame : ∀ g ∈ sys.sup.games, (g.hostCounter == e.hostCounter) = decide (g.handle = h) := by
    intro g hg
    rw [Bool.eq_iff_iff, beq_iff_eq, decide_eq_true_eq]
    exact hc.report_iff hnext (hc.listed g hg)
  unfold System.handleStatus
  rw [hnext]
  dsimp only
  refine ⟨?_, ?_⟩
  · have hupdate := Lib.updateFirst_key (k := e.hostCounter) (f := fun g => g.report e)
      (hc.nodup_listed ha)
    rw [hupdate]
    refine List.map_congr_left fun g hg => ?_
    rw [hgame g hg]
    by_cases hh : g.handle = h
    · simp [hh]
    · simp [hh]
  · cases hadv : sys.sup.currentGameAdvert with
    | none => rfl
    | some adv =>
        obtain ⟨h', hcurrent, hn⟩ := hc.current adv hadv
        have hiff := hc.report_iff hnext hn
        rw [Option.map_some, Option.map_some, hcurrent]
        by_cases heq : h' = h
        · rw [if_pos (hiff.2 heq), if_pos (congrArg some heq)]
        · rw [if_neg fun hn => heq (hiff.1 hn), if_neg fun hs => heq (Option.some.inj hs)]

theorem Counted.handleStatus (hc : sys.Counted) : sys.handleStatus.Counted := by
  unfold System.handleStatus
  split
  · exact hc
  · rename_i h e rest hnext
    have hgames : ∀ g ∈ Lib.updateFirst (fun g => g.hostCounter == e.hostCounter)
        (fun g : ActiveGame => g.report e) sys.sup.games,
        ∃ g' ∈ sys.sup.games, g = g' ∨ g = g'.report e := by
      intro g hg
      rcases Lib.mem_updateFirst hg with hg | ⟨g', hg', -, -, rfl⟩
      · exact ⟨g, hg, .inl rfl⟩
      · exact ⟨g', hg', .inr rfl⟩
    constructor
    · exact hc.below
    · exact hc.bound
    · exact hc.distinct
    · exact hc.events
    · exact fun x hx => hc.statuses x (hnext ▸ List.mem_cons_of_mem _ hx)
    · intro g hg
      obtain ⟨g', hg', rfl | rfl⟩ := hgames g hg
      · exact hc.listed g hg'
      · exact hc.listed g' hg'
    · intro g hg adv hadv
      obtain ⟨g', hg', rfl | rfl⟩ := hgames g hg
      · exact hc.adverts g hg' adv hadv
      · obtain ⟨adv', hadv', rfl⟩ := Option.map_eq_some_iff.1 hadv
        exact hc.adverts g' hg' adv' hadv'
    · intro adv hadv
      obtain ⟨adv', hadv', rfl⟩ := Option.map_eq_some_iff.1 hadv
      obtain ⟨h', hcurrent, hn⟩ := hc.current adv' hadv'
      refine ⟨h', hcurrent, hn.trans ?_⟩
      split
      · rfl
      · rfl

variable [RustStd] {cfg : HostConfig} {s₀ : System} {ev : HostEvent}

/-- Every operation keeps the games counted, while there are few. -/
theorem Counted.op (hfew : ev.creates cfg = true → s₀.sup.hostCounter < 2 ^ 28) (hc : sys.Counted)
    (h : Op cfg s₀ ev sys t) : t.Counted := by
  cases h with
  | send h c _ =>
      exact hc.of_sub (map_game_send sys h c) rfl (fun x hx => hx) (fun g hg => hg) hc.current
  | create sp name owner isPublic hcreates _ =>
      exact hc.createGame (hfew hcreates) sp name owner isPublic
  | drop q g _ =>
      exact hc.of_sub (map_game_send sys g.handle .unhost) rfl (fun x hx => hx)
        (fun g hg => List.mem_of_mem_eraseP hg) hc.current
  | forget h _ =>
      exact hc.of_sub rfl rfl (fun x hx => hx) (fun g hg => hg) fun adv hadv => nomatch hadv
  | clean => exact hc.cleanFinishedGames
  | bind connId h => exact hc.of_sub rfl rfl (fun x hx => hx) (fun g hg => hg) hc.current
  | report => exact hc.handleStatus
  | stop running requested => exact hc.of_sub rfl rfl (fun x hx => hx) (fun g hg => hg) hc.current
  | exit h =>
      refine hc.of_sub (map_game_modify (fun a => ?_) h sys.actors) rfl (fun x hx => hx)
        (fun g hg => hg) hc.current
      split
      · rfl
      · rfl

/-- So does an iteration of a game that does not rename its lobby. -/
theorem Counted.iterate (hc : sys.Counted) (hs : sys.Sound) (hev : ev.Sound) {h : Nat} {a : Actor}
    {inbox : List GameCmd} {e : Event} (ha : sys.actors[h]? = some a)
    (hiter : Iterates ev h a inbox e) (hre : a.game.rehosts e = false) :
    (sys.iterate h a inbox e).Counted := by
  have hmem := List.mem_of_getElem? ha
  obtain ⟨hlt, -⟩ := List.getElem?_eq_some_iff.1 ha
  have hstep : Numbered a.game.cfg.hostCounter (a.game.step e) :=
    step_numbered (hs a hmem).1 (hs.event hev ha hiter) hre ⟨rfl, hc.events a hmem⟩
  have hnumbers : (sys.iterate h a inbox e).numbers = sys.numbers := by
    refine List.ext_getElem? fun i => ?_
    unfold numbers System.iterate
    dsimp only
    rw [List.getElem?_map, List.getElem?_map, List.getElem?_set]
    by_cases hi : h = i
    · subst hi
      rw [if_pos rfl, if_pos hlt, ha]
      exact congrArg some hstep.number
    · rw [if_neg hi]
  constructor
  · rw [hnumbers]
    exact hc.below
  · exact hc.bound
  · rw [hnumbers]
    exact hc.distinct
  · intro b hb e' he'
    rcases List.mem_or_eq_of_mem_set hb with hb | rfl
    · exact hc.events b hb e' he'
    · exact (hstep.events e' he').trans hstep.number.symm
  · rw [hnumbers]
    intro x hx
    rcases List.mem_append.1 hx with hx | hx
    · exact hc.statuses x hx
    · obtain ⟨e', he', rfl⟩ := List.mem_map.1 (List.mem_of_mem_take hx)
      show sys.numbers[h]? = some e'.hostCounter
      rw [hstep.events e' (List.mem_of_mem_drop he')]
      unfold numbers
      rw [List.getElem?_map, ha]
      rfl
  · rw [hnumbers]
    exact hc.listed
  · exact hc.adverts
  · rw [hnumbers]
    exact hc.current

end System

-- ==================================================================== the claim

/-- Every report finds its sender. -/
structure Reported (sys : System) : Prop where
  /-- a listed game reports under the number it is listed under -/
  numbered : ∀ g ∈ sys.sup.games, ∀ a, sys.actors[g.handle]? = some a →
    ∀ e ∈ a.game.events, e.hostCounter = g.hostCounter
  /-- no two games have one number -/
  distinct : ∀ (h h' : Nat) (a a' : Actor), sys.actors[h]? = some a → sys.actors[h']? = some a' →
    a.game.cfg.hostCounter = a'.game.cfg.hostCounter → h = h'
  listed : (sys.sup.games.map ActiveGame.hostCounter).Nodup
  /-- the report that is taken next goes to the advert of its sender and to no other -/
  adverts : ∀ h e rest, sys.statuses = (h, e) :: rest →
    sys.handleStatus.sup.games
        = sys.sup.games.map (fun g => if g.handle = h then g.report e else g)
      ∧ sys.handleStatus.sup.currentGameAdvert = sys.sup.currentGameAdvert.map fun adv =>
        if sys.sup.currentGame = some h then adv.report e else adv

/-- No lobby is put up again under another name, and a game that is
hosted finds a number that was not used yet. -/
def KeepsNumbers [RustStd] (cfg : HostConfig) (sys : System) (ev : HostEvent) : Prop :=
  sys.rehosts ev = false ∧ (ev.creates cfg = true → sys.sup.hostCounter < 2 ^ 28)

theorem reported {sys : System} (hc : sys.Counted) (ha : sys.Agrees) : Reported sys where
  numbered g hg a hget e he := by
    have hn := hc.listed g hg
    unfold System.numbers at hn
    rw [List.getElem?_map, hget] at hn
    rw [hc.events a (List.mem_of_getElem? hget) e he]
    exact Option.some.inj hn
  distinct h h' a a' hget hget' heq := by
    refine hc.eq_of_number (n := a.game.cfg.hostCounter) ?_ ?_
    · unfold System.numbers
      rw [List.getElem?_map, hget]
      rfl
    · unfold System.numbers
      rw [List.getElem?_map, hget', heq]
      rfl
  listed := hc.nodup_listed ha
  adverts h e rest hnext := hc.handleStatus_games ha hnext

/-- Every report finds its sender, in every run in which no lobby is put
up again under another name and fewer than 2^28 games are hosted. -/
theorem status_reaches_sender [RustStd] {cfg : HostConfig} {sys : System}
    (h : HostReaches cfg (KeepsNumbers cfg) sys) : Reported sys := by
  have hboth := (h.preserves (I := fun s => s.Counted ∧ s.Agrees) ⟨.start, Tables.empty⟩ ?_ ?_).2
  · exact reported hboth.1 hboth.2
  · exact fun s₀ ev s t hC _ _ hop hI => ⟨hI.1.op hC.2 hop, hI.2.op hop⟩
  · intro s ev h a inbox e hs hC hev hget hiter hI
    have hre : a.game.rehosts e = false := by
      rcases hiter.event with ⟨env, c, rfl, rfl, hin⟩ | ⟨ms, rfl, rfl⟩ | ⟨skipped, rfl, rfl⟩
      · have hno : s.rehosts (.act h env) = false := hC.1
        simpa [System.rehosts, hget, hin, hiter.runs.1, hiter.runs.2] using hno
      · simp [GameState.rehosts, GameState.command]
      · simp [GameState.rehosts, GameState.command]
    refine ⟨hI.1.iterate hs hev hget hiter hre, ?_⟩
    exact hI.2.of_same rfl rfl rfl (System.hosts_iterate hs inbox hget (hs.event hev hget hiter))
      rfl

section Runs

open Scenario

/-- A client's event comes in over the supervisor. -/
def arrives (handle port : Nat) : Event → List HostEvent
  | .cmd env (.newConn connId link ip) => [.connection connId link ip port, .act handle env]
  | .cmd env (.frame connId f) => [.conn ⟨connId, .frame f⟩, .act handle env]
  | _ => []

instance [RustStd] (cfg : HostConfig) (sys : System) (ev : HostEvent) :
    Decidable (KeepsNumbers cfg sys ev) :=
  inferInstanceAs (Decidable (sys.rehosts ev = false
    ∧ (ev.creates cfg = true → sys.sup.hostCounter < 2 ^ 28)))

/-- Two lobbies are put up, and the owner joins the first. -/
def twoLobbies : List HostEvent :=
  [line "!pub one", line "!pub two", .act 0 (env 7), .act 1 (env 7)]
    ++ [connect 1 PlayerLink.drained, join 1 (txt "ann")].flatMap (arrives 0 6112)

theorem status_reaches_sender_twoLobbies :
    let sys := ({} : System).run botConfig twoLobbies
    HostReaches botConfig (KeepsNumbers botConfig) sys
      ∧ (sys.statuses.map fun x => (x.1, x.2.hostCounter)) = [(0, 1), (1, 2), (0, 1)]
      ∧ Reported sys := by
  intro sys
  have hrun : HostReaches botConfig (KeepsNumbers botConfig) sys := .of_meets (by decide +kernel)
  exact ⟨hrun, by decide +kernel, status_reaches_sender hrun⟩

/-- The owner puts the first lobby up again under another name, and the
supervisor takes the reports so far. -/
def renamedLobby : List HostEvent :=
  twoLobbies ++ arrives 0 6112 (say 1 2 (txt "!pub again")) ++ [.status, .status, .status]

/-- The first lobby now has the number of the second, and its report
goes to the advert of that one. -/
theorem renamed_lobby_reports_as_other :
    let sys := ({} : System).run botConfig renamedLobby
    HostReaches botConfig (fun _ _ => True) sys
      ∧ (sys.sup.games.map fun g => (g.handle, g.hostCounter)) = [(0, 1), (1, 2)]
      ∧ sys.numbers = [2, 2] ∧ (sys.statuses.map fun x => (x.1, x.2.hostCounter)) = [(0, 2)]
      ∧ (sys.sup.games.map fun g => g.advert.map LobbyAdvert.slotsOpen) = [some 2, some 3]
      ∧ (sys.handleStatus.sup.games.map fun g => g.advert.map LobbyAdvert.slotsOpen)
        = [some 2, some 2]
      ∧ ¬Reported sys := by
  intro sys
  have hnumbers : sys.numbers = [2, 2] := by decide +kernel
  refine ⟨.of_meets (by decide +kernel), by decide +kernel, hnumbers, by decide +kernel,
    by decide +kernel, by decide +kernel, fun hreported => ?_⟩
  have hnumber : ∀ h : Nat, h < 2 → ∃ a, sys.actors[h]? = some a ∧ a.game.cfg.hostCounter = 2 := by
    intro h hlt
    have hget : sys.numbers[h]? = some 2 := by
      rw [hnumbers]
      match h, hlt with
      | 0, _ => rfl
      | 1, _ => rfl
    unfold System.numbers at hget
    rw [List.getElem?_map] at hget
    exact Option.map_eq_some_iff.1 hget
  obtain ⟨a, ha, hn⟩ := hnumber 0 (by decide)
  obtain ⟨b, hb, hn'⟩ := hnumber 1 (by decide)
  exact absurd (hreported.distinct 0 1 a b ha hb (hn.trans hn'.symm)) (by decide)

end Runs

end Spectre.Hosting
