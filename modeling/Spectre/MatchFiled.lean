/-
A finished match, from the last tick to the tables of the store.

The last tick hands over two commands, the game and its result. Between
them others may get in, of other games and of administrators. The result
refers to the latest game of its name, and that is this game as long as
no other game of the same name gets in between; then the players of the
game and those of the result stand under one id (`match_is_filed`). The
result names nobody, so it adds to nobody's statistics.
-/
import Spectre.MatchRecord
import Spectre.StoreAnswers

namespace Spectre

open Store

/-- A player of the DotA table, as it is handed to the store. -/
def DotAPlayerStats.toRecord (p : DotAPlayerStats) : DotAPlayerRecord where
  colour := .ofNat p.colour
  name := p.name
  hero := p.hero
  kills := .ofNat p.kills
  deaths := .ofNat p.deaths
  assists := .ofNat p.assists
  creepKills := .ofNat p.creepKills
  creepDenies := .ofNat p.creepDenies
  neutralKills := .ofNat p.neutralKills
  towerKills := .ofNat p.towerKills
  raxKills := .ofNat p.raxKills
  courierKills := .ofNat p.courierKills

/-- The call the engine makes, as the command it queues; `started` and
`ended` are what the clock says. -/
def StoreCmd.toCmd (started ended : Int) : StoreCmd → Cmd
  | .ban name ip admin reason => .addBan name ip admin reason
  | .unban name => .removeBan name
  | .addAdmin name => .addAdmin name []
  | .removeAdmin name => .removeAdmin name
  | .logGame name mapPath players => .logGame name mapPath started ended players
  | .logDotaGame name winner durationSec treeHp throneHp players =>
      .logDotaGame name (.ofNat winner) (.ofNat durationSec) (.ofNat treeHp) (.ofNat throneHp)
        (players.map DotAPlayerStats.toRecord)
  | .recordDownload mapPath mapSize name ip spoofed total secs =>
      .recordDownload mapPath mapSize.toUInt64 name ip (if spoofed then 1 else 0) (.ofNat total)
        (.ofNat secs)

/-- An environment in which nothing fails. -/
def Store.Env.Well (env : Env) : Prop := ∀ n, env.fails n = false

/-- A game and its result stand under one id, and the result adds to
nobody's statistics. -/
structure Store.Filed (before later : Db) (name : Text) (players : List Text)
    (records : List DotAPlayerRecord) : Prop where
  game : ∃ g ∈ later.games, g.name = name
    ∧ (later.gamePlayers.filter fun r => r.1 = g.id).map Prod.snd = players
    ∧ later.dotaPlayers = before.dotaPlayers ++ records.map fun p => (g.id, p)
  nobody : ∀ player ≠ [], later.queryDotaStats player = before.queryDotaStats player

namespace Store

theorem inserted_well {α : Type} {env : Env} (h : env.Well) (k : Nat) (rows : List α) :
    env.inserted k rows = rows := by
  unfold Env.inserted
  have hkeep : (fun r : α × Nat => if env.fails r.2 = true then none else some r.1)
      = fun r => some r.1 := by
    funext r
    rw [h r.2]
    rfl
  rw [hkeep, List.filterMap_eq_map', List.zipIdx_map_fst]

-- ====================================================================== later

/-- What commands behind some tables add: games with higher ids, players
of those games, and results. -/
structure Later (db later : Db) : Prop where
  games : ∃ gs, later.games = db.games ++ gs
  gamePlayers : ∃ rs, later.gamePlayers = db.gamePlayers ++ rs
    ∧ ∀ r ∈ rs, db.games.length < r.1

theorem Later.refl (db : Db) : Later db db where
  games := ⟨[], (List.append_nil _).symm⟩
  gamePlayers := ⟨[], (List.append_nil _).symm, fun _ hr => absurd hr List.not_mem_nil⟩

variable {db mid later : Db}

theorem Later.trans (h : Later db mid) (h' : Later mid later) : Later db later := by
  obtain ⟨gs, hgs⟩ := h.games
  obtain ⟨gs', hgs'⟩ := h'.games
  obtain ⟨rs, hrs, hbehind⟩ := h.gamePlayers
  obtain ⟨rs', hrs', hbehind'⟩ := h'.gamePlayers
  refine ⟨⟨gs ++ gs', by rw [hgs', hgs, List.append_assoc]⟩,
    ⟨rs ++ rs', by rw [hrs', hrs, List.append_assoc], fun r hr => ?_⟩⟩
  rcases List.mem_append.1 hr with hr | hr
  · exact hbehind r hr
  · have hlt := hbehind' r hr
    rw [hgs, List.length_append] at hlt
    omega

theorem later_apply (h : db.Sound) (c : Cmd × Env) : Later db (db.apply c.2 c.1) := by
  cases hlogged : logged? c with
  | none =>
      obtain ⟨hgames, hplayers⟩ := Db.apply_of_not_logged db hlogged
      exact ⟨⟨[], by rw [hgames, List.append_nil]⟩,
        ⟨[], by rw [hplayers, List.append_nil], fun _ hr => absurd hr List.not_mem_nil⟩⟩
  | some game =>
      obtain ⟨g, -, -, heq⟩ := Db.apply_of_logged db hlogged
      rw [heq]
      refine ⟨⟨[g], rfl⟩, ⟨_, rfl, fun r hr => ?_⟩⟩
      obtain ⟨p, -, rfl⟩ := List.mem_map.1 hr
      show db.games.length < db.nextGameId
      rw [Db.nextGameId_eq h]
      exact Nat.lt_succ_self _

theorem later_foldl (h : db.Sound) (log : Log) :
    Later db (log.foldl (fun db c => db.apply c.2 c.1) db) := by
  induction log generalizing db with
  | nil => exact Later.refl db
  | cons c log ih => exact (later_apply h c).trans (ih (h.apply c))

/-- The names of the games a log adds. -/
theorem names_foldl (db : Db) (log : Log) :
    (Db.games (log.foldl (fun db c => db.apply c.2 c.1) db)).map GameRow.name
      = db.games.map GameRow.name ++ log.games.map Prod.fst := by
  induction log generalizing db with
  | nil => exact (List.append_nil _).symm
  | cons c log ih =>
      rw [List.foldl_cons, ih, Db.games_apply, List.append_assoc]
      unfold Log.games
      rw [List.filterMap_cons]
      cases logged? c <;> rfl

/-- The latest game of a name is the last one in the table that has it. -/
theorem lastGame_append (h : db.Sound) {gs hs : List GameRow} {g : GameRow}
    (hgames : db.games = gs ++ g :: hs) (hlast : ∀ g' ∈ hs, g'.name ≠ g.name) :
    db.lastGame g.name = some g.id := by
  have hids := h.ids
  have hsplit : (db.games.filter fun g' => decide (g'.name = g.name)).map GameRow.id
      = (gs.filter fun g' => decide (g'.name = g.name)).map GameRow.id ++ [g.id] := by
    have hnone : hs.filter (fun g' => decide (g'.name = g.name)) = [] := by
      rw [List.filter_eq_nil_iff]
      intro g' hg'
      simpa using hlast g' hg'
    have hself : decide (g.name = g.name) = true := decide_eq_true rfl
    rw [hgames, List.filter_append, List.filter_cons, if_pos hself, hnone, List.map_append]
    rfl
  unfold Db.lastGame
  rw [hsplit, List.max?_eq_some_iff]
  refine ⟨List.mem_append_right _ List.mem_cons_self, fun n hn => ?_⟩
  rcases List.mem_append.1 hn with hn | hn
  · -- the ids go up
    obtain ⟨g', hg', rfl⟩ := List.mem_map.1 hn
    have hpairs : ((gs ++ g :: hs).map GameRow.id).Pairwise (· < ·) := by
      rw [← hgames, hids]
      exact List.pairwise_lt_range'
    rw [List.map_append, List.pairwise_append] at hpairs
    exact Nat.le_of_lt (hpairs.2.2 _ (List.mem_map_of_mem (List.mem_of_mem_filter hg')) _
      List.mem_cons_self)
  · exact Nat.le_of_eq (List.mem_singleton.1 hn)

/-- A game and, later, its result, with no other game of the name in
between. -/
theorem result_filed (h : db.Sound) {game : Cmd × Env} {name : Text} {players : List Text}
    (hlogged : logged? game = some (name, players)) (between : Log)
    (hbetween : name ∉ between.games.map Prod.fst) {env : Env} (henv : env.Well)
    (winner duration treeHp throneHp : UInt32) (records : List DotAPlayerRecord) :
    let before : Db := (game :: between).foldl (fun db c => db.apply c.2 c.1) db
    let later := before.apply env (.logDotaGame name winner duration treeHp throneHp records)
    ∃ g ∈ later.games, g.name = name
      ∧ (later.gamePlayers.filter fun r => r.1 = g.id).map Prod.snd = players
      ∧ later.dotaPlayers = before.dotaPlayers ++ records.map fun p => (g.id, p) := by
  intro before later
  obtain ⟨g, hid, hname, heq⟩ := Db.apply_of_logged db hlogged
  have hsound := h.apply game
  have hnext := Db.nextGameId_eq h
  -- what has come in between
  obtain ⟨⟨gs, hgs⟩, ⟨rs, hrs, hbehind⟩⟩ := later_foldl hsound between
  have hnames := names_foldl (db.apply game.2 game.1) between
  rw [hgs, List.map_append, List.append_right_inj] at hnames
  have hbefore : Db.Sound before := sound_foldl hsound between
  have hgames : before.games = db.games ++ g :: gs := by
    show Db.games (between.foldl _ (db.apply game.2 game.1)) = _
    rw [hgs, heq]
    exact List.append_assoc _ _ _
  have hplayers : before.gamePlayers
      = db.gamePlayers ++ (players.map fun p => (db.nextGameId, p)) ++ rs := by
    show Db.gamePlayers (between.foldl _ (db.apply game.2 game.1)) = _
    rw [hrs, heq]
  have hlast : before.lastGame name = some g.id := by
    rw [← hname]
    refine lastGame_append hbefore hgames fun g' hg' hsame => hbetween ?_
    rw [← hnames, ← hname, ← hsame]
    exact List.mem_map_of_mem hg'
  have hlater : later = { before with
      dotaGames := before.dotaGames ++ [{ gameId := g.id, winner, duration, treeHp, throneHp }]
      dotaPlayers := before.dotaPlayers ++ records.map fun p => (g.id, p) } := by
    have hgame : before.gameOf env name = g.id := by
      unfold Db.gameOf
      rw [henv 1, hlast]
      rfl
    show before.logDotaGame env name winner duration treeHp throneHp records = _
    unfold Db.logDotaGame
    dsimp only
    rw [henv 0, henv (3 + records.length), hgame, Db.lastGame_refers hlast, inserted_well henv,
      inserted_well henv]
    rfl
  refine ⟨g, ?_, hname, ?_, by rw [hlater]⟩
  · rw [hlater]
    show g ∈ before.games
    rw [hgames]
    exact List.mem_append_right _ List.mem_cons_self
  · rw [hlater]
    show (before.gamePlayers.filter fun r => decide (r.1 = g.id)).map Prod.snd = players
    have hold : db.gamePlayers.filter (fun r => decide (r.1 = g.id)) = [] := by
      rw [List.filter_eq_nil_iff]
      intro r hr
      have hle := ((Db.refers_iff h).1 (h.gamePlayers r hr)).2
      rw [decide_eq_true_eq, hid, hnext]
      omega
    have hnew : rs.filter (fun r => decide (r.1 = g.id)) = [] := by
      rw [List.filter_eq_nil_iff]
      intro r hr
      have hlt := hbehind r hr
      rw [heq, List.length_append, List.length_singleton] at hlt
      rw [decide_eq_true_eq, hid, hnext]
      omega
    have hown : (players.map fun p => (db.nextGameId, p)).filter (fun r => decide (r.1 = g.id))
        = players.map fun p => (db.nextGameId, p) := by
      rw [List.filter_eq_self]
      intro r hr
      obtain ⟨p, -, rfl⟩ := List.mem_map.1 hr
      exact decide_eq_true hid.symm
    rw [hplayers, List.filter_append, List.filter_append, hold, hnew, hown, List.nil_append,
      List.append_nil, List.map_map]
    exact List.map_id _

/-- A record without a name counts for nobody. -/
theorem queryDotaStats_append {before later : Db} {rows : List (Nat × DotAPlayerRecord)}
    (h : later.dotaPlayers = before.dotaPlayers ++ rows) (hnobody : ∀ r ∈ rows, r.2.name = [])
    {player : Text} (hplayer : player ≠ []) :
    later.queryDotaStats player = before.queryDotaStats player := by
  have hnone : (rows.map Prod.snd).filter (fun p => nocase p.name player) = [] := by
    rw [List.filter_eq_nil_iff]
    intro p hp
    obtain ⟨r, hr, rfl⟩ := List.mem_map.1 hp
    have hlen : (0 == player.length) = false := by
      rw [beq_eq_false_iff_ne]
      exact Nat.ne_of_lt (List.length_pos_iff.2 hplayer)
    unfold nocase
    rw [hnobody r hr, List.length_nil, hlen, Bool.and_false]
    exact Bool.false_ne_true
  unfold Db.queryDotaStats
  rw [h, List.map_append, List.filter_append, hnone, List.append_nil]

end Store

section Loop

variable [RustStd] {s pre : GameState}

/-- A match that ends hands over its game and its result; whatever
comes before and between, as long as it is no game of the same name and
nothing fails, both stand under one id, and nobody's statistics have
changed. -/
theorem match_is_filed {skipped : Nat} {d : StatsDotA} (h : Reaches (fun _ _ => True) s)
    (hstore : s.store.isSome) (hend : EndsGame s skipped pre) (hscored : s.scored = some d)
    (started ended : Int) (log between : Store.Log) {e₁ e₂ : Store.Env} (he₁ : e₁.Well)
    (he₂ : e₂.Well)
    (hbetween : pre.cfg.name ∉ between.games.map Prod.fst) :
    ∃ game result,
      (s.stored (.tick skipped)).map (StoreCmd.toCmd started ended) = [game, result]
        ∧ Filed (log ++ (game, e₁) :: between).db
          (log ++ (game, e₁) :: (between ++ [(result, e₂)])).db pre.cfg.name
          (pre.startState.roster.map Prod.snd)
          (((RustStd.hashOrder d.players).map Prod.snd).map DotAPlayerStats.toRecord) := by
  obtain ⟨hs, hnobody⟩ := reaches_namesNobody h
  have hnameless : d.Nameless := by
    unfold GameState.scored at hscored
    split at hscored
    · obtain ⟨d₀, hd₀, rfl⟩ := Option.map_eq_some_iff.1 hscored
      exact (hnobody d₀ hd₀).foldl s.actions
    · exact hnobody d hscored
  rw [hend.stored hs hstore, hscored]
  have hsound : Db.Sound log.db := sound_foldl sound_empty log
  have hlogged : logged? (.logGame pre.cfg.name pre.cfg.map.path started ended
      (pre.startState.roster.map Prod.snd), e₁)
      = some (pre.cfg.name, pre.startState.roster.map Prod.snd) := by
    unfold logged?
    dsimp only
    rw [he₁ 0, he₁ 1, he₁ (2 + _), inserted_well he₁]
    rfl
  obtain ⟨g, hg, hname, hplayers, hrows⟩ := result_filed hsound hlogged between hbetween he₂
    (UInt32.ofNat d.winner) (UInt32.ofNat d.durationSecs) (UInt32.ofNat d.treeHp)
    (UInt32.ofNat d.throneHp)
    (((RustStd.hashOrder d.players).map Prod.snd).map DotAPlayerStats.toRecord)
  have hlater : ∀ (game : Cmd × Store.Env) (rest : Store.Log), (log ++ game :: rest).db
      = (game :: rest).foldl (fun db c => db.apply c.2 c.1) log.db := by
    intro game rest
    exact List.foldl_append
  refine ⟨_, _, rfl, ?_⟩
  rw [hlater, hlater, ← List.cons_append, List.foldl_append]
  refine ⟨⟨g, hg, hname, hplayers, hrows⟩, fun player hplayer => ?_⟩
  refine queryDotaStats_append hrows (fun r hr => ?_) hplayer
  obtain ⟨p, hp, rfl⟩ := List.mem_map.1 hr
  obtain ⟨stats, hstats, rfl⟩ := List.mem_map.1 hp
  obtain ⟨e, he, rfl⟩ := List.mem_map.1 hstats
  exact (hnameless e ((RustStd.hashOrder_perm d.players).mem_iff.1 he)).2

end Loop

section Runs

open Scenario

/-- Two players play, one of them scores, and both stay until the game,
which is won, closes. -/
def scoredGame : List Event :=
  twoPlay PlayerLink.drained PlayerLink.drained
    ++ [statistic 1 (txt "1") (txt "1") 5, statistic 1 (txt "Global") (txt "Winner") 1, .tick 0,
      .elapse 60000]

/-- Both players are filed under the game, and the name of an
administrator comes between the game and its result. -/
theorem match_is_filed_scoredGame :
    ∃ pre d game result,
      EndsGame (dotaLobby.run scoredGame) 0 pre ∧ (dotaLobby.run scoredGame).scored = some d
        ∧ d.players ≠ [] ∧ pre.startState.roster.map Prod.snd = [txt "ann", txt "bob"]
        ∧ ((dotaLobby.run scoredGame).stored (.tick 0)).map (StoreCmd.toCmd 100 160)
          = [game, result]
        ∧ Filed (Log.db ([] ++ (game, ⟨160, fun _ => false⟩)
            :: [(.addAdmin (txt "eve") [], ⟨160, fun _ => false⟩)]))
          (Log.db ([] ++ (game, ⟨160, fun _ => false⟩)
            :: ([(.addAdmin (txt "eve") [], ⟨160, fun _ => false⟩)]
              ++ [(result, ⟨161, fun _ => false⟩)])))
          pre.cfg.name (pre.startState.roster.map Prod.snd)
          (((RustStd.hashOrder d.players).map Prod.snd).map DotAPlayerStats.toRecord) := by
  have hrun : Reaches (fun _ _ => True) (dotaLobby.run scoredGame) :=
    ⟨_, 0, 5, Runs.of_meets (by decide +kernel)⟩
  obtain ⟨pre, hend⟩ := endsGame_of_check (s := dotaLobby.run scoredGame) (by decide +kernel)
    (by decide +kernel)
  have hroster : ((dotaLobby.run scoredGame).beforeEnd 0).map
      (fun pre => pre.startState.roster.map Prod.snd) = some [txt "ann", txt "bob"] := by
    decide +kernel
  rw [hend.reached, Option.map_some, Option.some.injEq] at hroster
  have hsome : (dotaLobby.run scoredGame).scored.isSome = true
      ∧ (dotaLobby.run scoredGame).scored.map StatsDotA.players ≠ some [] := by decide +kernel
  obtain ⟨d, hd⟩ := Option.isSome_iff_exists.1 hsome.1
  have hplayers : d.players ≠ [] := by
    intro hnil
    rw [hd, Option.map_some, hnil] at hsome
    exact hsome.2 rfl
  obtain ⟨game, result, hstored, hfiled⟩ := match_is_filed hrun (by decide +kernel) hend hd 100 160
    [] [(.addAdmin (txt "eve") [], ⟨160, fun _ => false⟩)]
    (fun _ => rfl : Store.Env.Well ⟨160, fun _ => false⟩)
    (fun _ => rfl : Store.Env.Well ⟨161, fun _ => false⟩) List.not_mem_nil
  exact ⟨pre, d, game, result, hend, hd, hplayers, hroster, hstored, hfiled⟩

end Runs

end Spectre
