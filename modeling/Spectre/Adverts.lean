/-
The games a session advertises.

The list of a session starts empty, so a session that ends with a game
on its list takes the game with it; a command that ends a wait is not
carried out; and `UnhostGame` clears the list, whichever game it is
meant for. Where none of this happens, and the queue always has room,
the list is what the commands ask for, in every session and at every
moment.
-/
import Spectre.Battlenet
import Spectre.Lib.Path

namespace Spectre.Bnet

-- ==================================================================== statement

/-- The list of a session; between sessions there is none. -/
def Life.adverts : Life → List ActiveAdvert
  | session _ adverts => adverts
  | _ => []

/-- The session breaks off. -/
def Client.breaksOff (c : Client) : ClientEvent → Bool
  | .closed => match c.life with
      | .session _ _ => true
      | _ => false
  | .frame f => match c.life with
      | .session stage _ => (stage.onFrame f).isNone
      | _ => false
  | _ => false

/-- What keeps the adverts right: the queue has room for a command about
games, a game is unhosted when no other is hosted, its advert fits a
packet, no session ends with a game on its list, and no wait ends with
`CreateGame`. -/
structure Undisturbed (ev : ClientEvent) (c : Client) : Prop where
  room : ∀ i, ev = .issue i → c.life ≠ .ended → c.queue.length < queueCapacity
  alone : ∀ name, ev = .issue (.unhost name) → ∀ g ∈ hosted c.issued, g.name = name
  fits : ∀ g, ev = .issue (.create g) → (ActiveAdvert.of c.cfg g).frame.isSome = true
  ends : c.breaksOff ev = true → c.life.adverts = []
  waits : ev = .take → c.life = .waiting → ∀ g, c.queue.head? ≠ some (.createGame g)

/-- A state of a client, reached by events that meet the condition. -/
def ClientReaches (cfg : BnetConfig) (c : Client) : Prop :=
  Lib.Path (fun ev s t => t = Client.step s ev) Undisturbed { cfg := cfg } c

-- ============================================================== games and adverts

/-- A hosted game was created. -/
theorem mem_hosted {issued : List Issue} {g : Game} (h : g ∈ hosted issued) :
    .create g ∈ issued := by
  have hfold : ∀ games : List Game, g ∈ issued.foldl Issue.on games →
      g ∈ games ∨ .create g ∈ issued := by
    clear h
    induction issued with
    | nil => exact fun games h => .inl h
    | cons i issued ih =>
        intro games h
        rcases ih _ h with hmem | hmem
        · cases i with
          | create g' =>
              rcases List.mem_append.1 hmem with hold | hnew
              · exact .inl (List.mem_of_mem_filter hold)
              · rw [List.mem_singleton.1 hnew]
                exact .inr List.mem_cons_self
          | unhost name => exact .inl (List.mem_of_mem_filter hmem)
          | unhostAll => cases hmem
        · exact .inr (List.mem_cons_of_mem _ hmem)
  exact (hfold [] h).resolve_left List.not_mem_nil

/-- One command more. -/
theorem hosted_append (issued : List Issue) (i : Issue) :
    hosted (issued ++ [i]) = i.on (hosted issued) := by
  unfold hosted
  rw [List.foldl_append]
  rfl

/-- A created game replaces the adverts of its name. -/
theorem adverts_create (cfg : BnetConfig) (games : List Game) (g : Game) :
    ((games.map (ActiveAdvert.of cfg)).filter fun b => b.name ≠ (ActiveAdvert.of cfg g).name)
        ++ [ActiveAdvert.of cfg g] = (Issue.on games (.create g)).map (ActiveAdvert.of cfg) := by
  show _ = (games.filter (fun h => h.name ≠ g.name) ++ [g]).map _
  rw [List.map_append, List.filter_map]
  rfl

/-- An advert that fits its packet is announced under its name. -/
theorem advertised_announce {a : ActiveAdvert} (h : a.frame.isSome = true) :
    a.announce.filterMap Sent.advertised? = [a.name] := by
  obtain ⟨b, hb⟩ := Option.isSome_iff_exists.1 h
  unfold ActiveAdvert.announce
  rw [hb]
  cases a.port with
  | none => rfl
  | some p => rfl

/-- Adverts that fit are announced under their names. -/
theorem advertised_flatMap {adverts : List ActiveAdvert}
    (h : ∀ a ∈ adverts, a.frame.isSome = true) :
    (adverts.flatMap ActiveAdvert.announce).filterMap Sent.advertised?
      = adverts.map ActiveAdvert.name := by
  induction adverts with
  | nil => rfl
  | cons a adverts ih =>
      rw [List.flatMap_cons, List.filterMap_append, List.map_cons,
        advertised_announce (h a List.mem_cons_self),
        ih fun b hb => h b (List.mem_cons_of_mem _ hb)]
      rfl

-- ==================================================================== invariant

/-- The commands about games so far: `taken` were carried out, and the
list shows it; `rest` are in the queue. -/
structure Carried (c : Client) (taken rest : List Issue) : Prop where
  issued : c.issued = taken ++ rest
  queued : rest.map Issue.cmd = c.queue.filter BnetCmd.hosts
  adverts : c.life.adverts = (hosted taken).map (ActiveAdvert.of c.cfg)

/-- The commands were given one game at a time, and every advert fits. -/
structure Singly (cfg : BnetConfig) (issued : List Issue) : Prop where
  alone : ∀ p name q, issued = p ++ .unhost name :: q → ∀ g ∈ hosted p, g.name = name
  fits : ∀ g, .create g ∈ issued → (ActiveAdvert.of cfg g).frame.isSome = true

/-- The client has ended, or carries out what it is told. -/
def Obeys (c : Client) : Prop :=
  c.life = .ended ∨ Singly c.cfg c.issued ∧ ∃ taken rest, Carried c taken rest

/-- One command more, given as it should be. -/
theorem Singly.append {cfg : BnetConfig} {issued : List Issue} (h : Singly cfg issued) {i : Issue}
    (halone : ∀ name, i = .unhost name → ∀ g ∈ hosted issued, g.name = name)
    (hfits : ∀ g, i = .create g → (ActiveAdvert.of cfg g).frame.isSome = true) :
    Singly cfg (issued ++ [i]) where
  alone p name q hpq := by
    rcases List.eq_nil_or_concat q with rfl | ⟨q, j, rfl⟩
    · obtain ⟨rfl, hi⟩ := List.append_inj' hpq rfl
      exact halone name (List.singleton_inj.1 hi)
    · rw [List.concat_eq_append, ← List.cons_append, ← List.append_assoc] at hpq
      exact h.alone p name q (List.append_inj' hpq rfl).1
  fits g hg := by
    rcases List.mem_append.1 hg with hg | hg
    · exact h.fits g hg
    · exact hfits g (List.mem_singleton.1 hg).symm

/-- An event that takes no command about games and changes no list. -/
theorem Carried.keep {c d : Client} {taken rest : List Issue} (h : Carried c taken rest)
    (hcfg : d.cfg = c.cfg) (hissued : d.issued = c.issued)
    (hqueue : d.queue.filter BnetCmd.hosts = c.queue.filter BnetCmd.hosts)
    (hadverts : d.life.adverts = c.life.adverts) : Carried d taken rest where
  issued := hissued.trans h.issued
  queued := h.queued.trans hqueue.symm
  adverts := by rw [hadverts, hcfg, h.adverts]

/-- Nothing that counts has changed. -/
theorem Obeys.keep {c d : Client} (h : Obeys c) (hcfg : d.cfg = c.cfg)
    (hissued : d.issued = c.issued)
    (hqueue : d.queue.filter BnetCmd.hosts = c.queue.filter BnetCmd.hosts)
    (hadverts : d.life.adverts = c.life.adverts) (hended : c.life = .ended → d.life = .ended) :
    Obeys d := by
  rcases h with hend | ⟨horder, taken, rest, hcarried⟩
  · exact .inl (hended hend)
  · refine .inr ⟨?_, taken, rest, hcarried.keep hcfg hissued hqueue hadverts⟩
    rw [hcfg, hissued]
    exact horder

/-- The first command about games in the queue is the first of `rest`. -/
theorem Carried.head {c : Client} {taken rest : List Issue} {cmd : BnetCmd} {queue : List BnetCmd}
    (h : Carried c taken rest) (hq : c.queue = cmd :: queue) (hcmd : cmd.hosts = true) :
    ∃ i rest', rest = i :: rest' ∧ i.cmd = cmd ∧ rest'.map Issue.cmd = queue.filter
      BnetCmd.hosts := by
  have hqueued := h.queued
  rw [hq, List.filter_cons_of_pos hcmd] at hqueued
  obtain ⟨i, rest', rfl, hi, hrest⟩ := List.map_eq_cons_iff.1 hqueued
  exact ⟨i, rest', rfl, hi, hrest⟩

-- ======================================================================== steps

/-- A command that is about no game. -/
theorem Obeys.send {c : Client} (h : Obeys c) (cmd : BnetCmd) (hcmd : cmd.hosts = false) :
    Obeys (c.send cmd) := by
  unfold Client.send
  split
  · exact h
  · refine h.keep rfl rfl ?_ rfl id
    show (c.queue ++ [cmd]).filter _ = _
    rw [List.filter_append, List.filter_cons_of_neg (by simp [hcmd]), List.filter_nil,
      List.append_nil]

/-- A command about games finds room behind the others. -/
theorem Obeys.issue {c : Client} (h : Obeys c) {i : Issue}
    (hC : Undisturbed (.issue i) c) : Obeys (c.step (.issue i)) := by
  have hstep : c.step (.issue i) = { c.send i.cmd with issued := c.issued ++ [i] } := rfl
  rw [hstep]
  unfold Client.send
  rcases h with hend | ⟨horder, taken, rest, hcarried⟩
  · rw [if_pos (.inl hend)]
    exact .inl hend
  by_cases hend : c.life = .ended
  · rw [if_pos (.inl hend)]
    exact .inl hend
  have hroom := hC.room i rfl hend
  rw [if_neg (by
    rintro (h | h)
    · exact hend h
    · omega)]
  refine .inr ⟨?_, taken, rest ++ [i], ?_, ?_, hcarried.adverts⟩
  · exact horder.append (fun name hi => hC.alone name (hi ▸ rfl)) fun g hi => hC.fits g (hi ▸ rfl)
  · show c.issued ++ [i] = _
    rw [hcarried.issued, List.append_assoc]
  · show _ = (c.queue ++ [i.cmd]).filter _
    have hhosts : i.cmd.hosts = true := by cases i <;> rfl
    rw [List.map_append, List.filter_append, hcarried.queued, List.filter_cons_of_pos hhosts]
    rfl

/-- A session handles a command. -/
theorem Obeys.handle {c : Client} {stage : Stage} {adverts : List ActiveAdvert} {cmd : BnetCmd}
    {queue : List BnetCmd} (h : Obeys c) (hq : c.queue = cmd :: queue)
    (hlife : c.life = .session stage adverts) :
    Obeys ({ c with queue := queue }.handle stage adverts cmd) := by
  rcases h with hend | ⟨horder, taken, rest, hcarried⟩
  · rw [hlife] at hend
    cases hend
  have hadverts : adverts = (hosted taken).map (ActiveAdvert.of c.cfg) := by
    rw [← hcarried.adverts, hlife]
    rfl
  have hskip : cmd.hosts = false → rest.map Issue.cmd = queue.filter BnetCmd.hosts := by
    intro hcmd
    rw [hcarried.queued, hq, List.filter_cons_of_neg (by simp [hcmd])]
  cases cmd with
  | createGame g =>
      obtain ⟨i, rest', rfl, hi, hrest⟩ := hcarried.head hq rfl
      have hi : i = .create g := by
        cases i with
        | create g' => exact congrArg Issue.create (BnetCmd.createGame.inj hi)
        | unhost _ => cases hi
        | unhostAll => cases hi
      refine .inr ⟨horder, taken ++ [i], rest', ?_, hrest, ?_⟩
      · show c.issued = _
        rw [hcarried.issued, List.append_assoc]
        rfl
      · show adverts.filter _ ++ _ = _
        rw [hadverts, adverts_create, hosted_append, hi]
        rfl
  | unhostGame =>
      obtain ⟨i, rest', rfl, hi, hrest⟩ := hcarried.head hq rfl
      refine .inr ⟨horder, taken ++ [i], rest', ?_, hrest, ?_⟩
      · show c.issued = _
        rw [hcarried.issued, List.append_assoc]
        rfl
      · -- the command clears the list, and no other game is on it
        show [] = _
        rw [hosted_append]
        cases i with
        | create _ => cases hi
        | unhost name =>
            have halone := horder.alone taken name rest' hcarried.issued
            show [] = ((hosted taken).filter _).map _
            rw [List.filter_eq_nil_iff.2 fun g hg => by simp [halone g hg], List.map_nil]
        | unhostAll => rfl
  | refreshGame players slots =>
      exact .inr ⟨horder, taken, rest, hcarried.issued, hskip rfl, hcarried.adverts⟩
  | social => exact .inr ⟨horder, taken, rest, hcarried.issued, hskip rfl, hcarried.adverts⟩
  | shutdown => exact .inl rfl

/-- A command ends a wait. Nothing is on the list, so there is nothing
to unhost. -/
theorem Obeys.wait {c : Client} {cmd : BnetCmd} {queue : List BnetCmd} (h : Obeys c)
    (hq : c.queue = cmd :: queue) (hlife : c.life = .waiting) (hcmd : ∀ g, cmd ≠ .createGame g) :
    Obeys { c with queue := queue, life := if cmd = .shutdown then .ended else .connecting } := by
  by_cases hdown : cmd = .shutdown
  · rw [if_pos hdown]
    exact .inl rfl
  rw [if_neg hdown]
  rcases h with hend | ⟨horder, taken, rest, hcarried⟩
  · rw [hlife] at hend
    cases hend
  have hnone : (hosted taken).map (ActiveAdvert.of c.cfg) = [] := by
    rw [← hcarried.adverts, hlife]
    rfl
  by_cases hhosts : cmd.hosts = true
  · obtain ⟨i, rest', rfl, hi, hrest⟩ := hcarried.head hq hhosts
    refine .inr ⟨horder, taken ++ [i], rest', ?_, hrest, ?_⟩
    · show c.issued = _
      rw [hcarried.issued, List.append_assoc]
      rfl
    · show [] = _
      rw [hosted_append, List.map_eq_nil_iff.1 hnone]
      cases i with
      | create g => exact absurd hi.symm (hcmd g)
      | unhost _ => rfl
      | unhostAll => rfl
  · refine .inr ⟨horder, taken, rest, hcarried.issued, ?_, ?_⟩
    · rw [hcarried.queued, hq, List.filter_cons_of_neg hhosts]
    · rw [hnone]
      rfl

/-- The next command is carried out. -/
theorem Obeys.take {c : Client} (h : Obeys c) (hC : Undisturbed .take c) : Obeys c.take := by
  unfold Client.take
  split
  · rename_i cmd queue stage adverts hq hlife
    exact h.handle hq hlife
  · rename_i cmd queue hq hlife
    refine h.wait hq hlife fun g hg => ?_
    refine hC.waits rfl hlife g ?_
    rw [hq, hg]
    rfl
  · exact h

/-- A frame arrives: only the end of the session touches the list. -/
theorem Obeys.onFrame {c : Client} (h : Obeys c) {f : ServerFrame}
    (hC : Undisturbed (.frame f) c) : Obeys (c.onFrame f) := by
  unfold Client.onFrame
  split
  · rename_i stage adverts hlife
    split
    · rename_i hbreak
      have hnone := hC.ends (by
        unfold Client.breaksOff
        simp only [hlife, hbreak, Option.isNone_none])
      refine h.keep rfl rfl rfl hnone.symm fun hend => ?_
      rw [hlife] at hend
      cases hend
    · refine h.keep rfl rfl rfl ?_ fun hend => ?_
      · rw [hlife]
        rfl
      · rw [hlife] at hend
        cases hend
  · exact h

/-- Every event that is as it should be. -/
theorem Obeys.step {c : Client} (h : Obeys c) {ev : ClientEvent} (hC : Undisturbed ev c) :
    Obeys (c.step ev) := by
  cases ev with
  | issue i => exact h.issue hC
  | refresh players slots => exact h.send _ rfl
  | social => exact h.send _ rfl
  | shutdown => exact h.send _ rfl
  | cutLate => exact h
  | take => exact h.take hC
  | frame f => exact h.onFrame hC
  | advTick =>
      show Obeys c.onAdvTick
      unfold Client.onAdvTick
      split
      · exact h.keep rfl rfl rfl rfl id
      · exact h
  | closed =>
      unfold Client.step
      dsimp only
      split
      · rename_i stage adverts hlife
        -- a session breaks off only when it has no adverts, which is the condition
        have hnone := hC.ends (by
          unfold Client.breaksOff
          simp only [hlife])
        refine h.keep rfl rfl rfl hnone.symm fun hend => ?_
        rw [hlife] at hend
        cases hend
      · exact h
  | refused =>
      unfold Client.step
      dsimp only
      split
      · rename_i hlife
        exact h.keep rfl rfl rfl (by rw [hlife]; rfl) (by rw [hlife]; exact (nomatch ·))
      · exact h
  | cutEarly =>
      unfold Client.step
      dsimp only
      split
      · rename_i hlife
        exact h.keep rfl rfl rfl (by rw [hlife]; rfl) (by rw [hlife]; exact (nomatch ·))
      · exact h
  | connected =>
      unfold Client.step
      dsimp only
      split
      · rename_i hlife
        exact h.keep rfl rfl rfl (by rw [hlife]; rfl) (by rw [hlife]; exact (nomatch ·))
      · exact h
  | slept =>
      -- a client that was asleep or waiting connects again
      unfold Client.step
      dsimp only
      split
      · rename_i hlife
        refine h.keep rfl rfl rfl ?_ fun hend => ?_
        · rcases hlife with hlife | hlife <;> rw [hlife] <;> rfl
        · rcases hlife with hlife | hlife <;> rw [hlife] at hend <;> cases hend
      · exact h

/-- So the client obeys in every run. -/
theorem ClientReaches.obeys {cfg : BnetConfig} {c : Client} (h : ClientReaches cfg c) :
    Obeys c := by
  refine Lib.Path.preserves (I := Obeys) ?_ h ?_
  · rintro ev c _ hC rfl hI
    exact hI.step hC
  · refine .inr ⟨⟨fun p name q hpq => ?_, fun _ hg => (List.not_mem_nil hg).elim⟩, [], [], rfl, rfl,
      rfl⟩
    simp at hpq

/-- In every undisturbed run the games a session in chat has on its list
are those created and not unhosted, as far as the queue has been read,
and the timer advertises each of them once; every other command is still
in the queue. -/
theorem adverts_match_games {cfg : BnetConfig} {c : Client} (h : ClientReaches cfg c)
    {adverts : List ActiveAdvert} (hchat : c.life = .session .inChat adverts) :
    ∃ taken rest, c.issued = taken ++ rest ∧ rest.map Issue.cmd = c.queue.filter BnetCmd.hosts
      ∧ adverts = (hosted taken).map (ActiveAdvert.of c.cfg)
      ∧ ((c.step .advTick).sent.drop c.sent.length).filterMap Sent.advertised?
        = (hosted taken).map Game.name := by
  rcases h.obeys with hend | ⟨horder, taken, rest, hcarried⟩
  · rw [hchat] at hend
    cases hend
  have hadverts : adverts = (hosted taken).map (ActiveAdvert.of c.cfg) := by
    rw [← hcarried.adverts, hchat]
    rfl
  refine ⟨taken, rest, hcarried.issued, hcarried.queued, hadverts, ?_⟩
  have hsent : (c.step .advTick).sent = c.sent ++ adverts.flatMap ActiveAdvert.announce := by
    show c.onAdvTick.sent = _
    unfold Client.onAdvTick
    rw [hchat]
  rw [hsent, List.drop_left, advertised_flatMap, hadverts, List.map_map]
  · rfl
  · intro a ha
    rw [hadverts] at ha
    obtain ⟨g, hg, rfl⟩ := List.mem_map.1 ha
    refine horder.fits g ?_
    rw [hcarried.issued]
    exact List.mem_append_left _ (mem_hosted hg)

-- ========================================================================= runs

/-- The command hosts a game. -/
def BnetCmd.creates : BnetCmd → Bool
  | createGame _ => true
  | _ => false

/-- The command about games that an event gives. -/
def ClientEvent.issue? : ClientEvent → Option Issue
  | issue i => some i
  | _ => none

/-- What the condition asks of a command about games. -/
def Issue.clear (c : Client) : Issue → Bool
  | create g => (ActiveAdvert.of c.cfg g).frame.isSome
  | unhost name => (hosted c.issued).all fun g => g.name = name
  | unhostAll => true

instance (ev : ClientEvent) (c : Client) : Decidable (Undisturbed ev c) :=
  decidable_of_iff
    ((∀ i ∈ ev.issue?.toList, (c.life ≠ .ended → c.queue.length < queueCapacity)
        ∧ i.clear c = true)
      ∧ (c.breaksOff ev = true → c.life.adverts = [])
      ∧ (ev = .take → c.life = .waiting → ∀ cmd ∈ c.queue.head?.toList, cmd.creates = false))
    (by
      constructor
      · rintro ⟨hissue, hends, hwaits⟩
        refine ⟨?_, ?_, ?_, hends, fun htake hw g hg => ?_⟩
        · rintro i rfl
          exact (hissue i (List.mem_singleton_self i)).1
        · rintro name rfl g hg
          have hclear := (hissue _ (List.mem_singleton_self _)).2
          exact of_decide_eq_true (List.all_eq_true.1 hclear g hg)
        · rintro g rfl
          exact (hissue _ (List.mem_singleton_self _)).2
        · have hcmd := hwaits htake hw (.createGame g) (by rw [hg]; exact List.mem_singleton_self _)
          cases hcmd
      · intro h
        refine ⟨fun i hi => ?_, h.ends, fun htake hw cmd hcmd => ?_⟩
        · cases ev with
          | issue j =>
              obtain rfl := List.mem_singleton.1 hi
              refine ⟨h.room i rfl, ?_⟩
              cases i with
              | create g => exact h.fits g rfl
              | unhost name =>
                  exact List.all_eq_true.2 fun g hg => decide_eq_true (h.alone name rfl g hg)
              | unhostAll => rfl
          | _ => cases hi
        · rw [Option.mem_toList] at hcmd
          cases cmd with
          | createGame g => exact absurd hcmd (h.waits htake hw g)
          | _ => rfl)

/-- A client with a name. -/
def client : Client := { cfg := ⟨txt "host"⟩ }

/-- A public game on a small map. -/
def game (name : Text) (counter : Nat) : Game :=
  { name := name
    map := { path := txt "Maps\\a.w3x", crc := 2, sha1 := List.replicate 20 0, width := 1
             height := 1, gameType := 1, flags := 0 }
    hostCounter := counter, visibility := .publicGame, hostName := none, port := some 6112 }

/-- A connection, and the login to the end. -/
def login : List ClientEvent :=
  [.connected, .frame (.authInfo .accepted), .frame (.authCheck .accepted),
    .frame (.accountLogon .accepted), .frame (.logonProof .accepted), .frame .enterChat]

/-- A game is hosted before the client is in chat and unhosted in it; the
connection breaks; another is hosted in the next session. -/
def quietEvening : List ClientEvent :=
  [.issue (.create (game (txt "one") 1)), .refused, .slept] ++ login
    ++ [.take, .advTick, .issue (.unhost (txt "one")), .take, .closed, .slept]
    ++ login ++ [.issue (.create (game (txt "two") 2)), .take]

/-- In the end the second game is advertised. -/
theorem adverts_match_games_quietEvening :
    (client.run quietEvening).life
        = .session .inChat [ActiveAdvert.of client.cfg (game (txt "two") 2)]
      ∧ ∃ taken rest, (client.run quietEvening).issued = taken ++ rest
        ∧ rest.map Issue.cmd = (client.run quietEvening).queue.filter BnetCmd.hosts
        ∧ [ActiveAdvert.of client.cfg (game (txt "two") 2)]
          = (hosted taken).map (ActiveAdvert.of (client.run quietEvening).cfg)
        ∧ (((client.run quietEvening).step .advTick).sent.drop
            (client.run quietEvening).sent.length).filterMap Sent.advertised?
          = (hosted taken).map Game.name := by
  have hrun : ClientReaches ⟨txt "host"⟩ (client.run quietEvening) :=
    Lib.Path.of_meets (by decide +kernel)
  have hchat : (client.run quietEvening).life
      = .session .inChat [ActiveAdvert.of client.cfg (game (txt "two") 2)] := by decide +kernel
  exact ⟨hchat, adverts_match_games hrun hchat⟩

/-- Two games are hosted and one of them is unhosted. -/
def twoGames : List ClientEvent :=
  login ++ [.issue (.create (game (txt "one") 1)), .issue (.create (game (txt "two") 2)),
    .issue (.unhost (txt "one")), .take, .take, .take]

/-- A game is hosted and the connection breaks. -/
def brokenSession : List ClientEvent :=
  login ++ [.issue (.create (game (txt "one") 1)), .take, .closed, .slept] ++ login

/-- A game is hosted in the wait for the next session. -/
def hostedInWait : List ClientEvent :=
  [.refused, .issue (.create (game (txt "one") 1)), .take] ++ login

/-- Unhosting one of two games takes both adverts away; and a game does
not outlive its session, nor is it advertised at all if the command
comes while the client waits. The queue is empty each time. -/
theorem adverts_get_lost :
    (∀ evs ∈ [twoGames, brokenSession, hostedInWait], (client.run evs).life = .session .inChat []
        ∧ (client.run evs).queue = [])
      ∧ (hosted (client.run twoGames).issued).map Game.name = [txt "two"]
      ∧ (hosted (client.run brokenSession).issued).map Game.name = [txt "one"]
      ∧ (hosted (client.run hostedInWait).issued).map Game.name = [txt "one"]
      ∧ ∀ evs ∈ [twoGames, brokenSession, hostedInWait],
        ((client.run evs).step .advTick).sent = (client.run evs).sent := by
  decide +kernel

end Spectre.Bnet
