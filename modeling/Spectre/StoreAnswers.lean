/-
What the answers of the store mean.

A log is the list of commands the worker has executed, with the time and
the failures of each. What the tables hold can be read off the log
without the tables: a ban stands if it was added and no removal of its
name came after (`Stands`), an administrator likewise, the players of a
game are those of all games logged under the name, and the result of a
DotA game counts if a game of its name was logged before (`credited`).
`Means` says what an answer has to be, given the log, and the worker
gives no other (`answer_means`).

Behind the queue that is true in every order of events: a reply means
what it should for the commands taken before the question, and those
include all that was taken before it was asked (`store_reply_means`).
-/
import Spectre.Store

namespace Spectre.Store

open Lib

/-- The commands executed, each with what the environment decided. -/
abbrev Log := List (Cmd × Env)

/-- The tables a log leaves. -/
def Log.db (log : Log) : Db := log.foldl (fun db c => db.apply c.2 c.1) {}

-- ====================================================================== meaning

/-- A removal of the ban. -/
def Unbans (b : Ban) (c : Cmd × Env) : Prop :=
  c.2.fails 0 = false ∧ ∃ name, c.1 = .removeBan name ∧ nocase b.name name = true

/-- The ban was added, and not removed since. -/
def Stands (log : Log) (b : Ban) : Prop :=
  ∃ pre c post, log = pre ++ c :: post
    ∧ (c.1 = .addBan b.name b.ip b.admin b.reason ∧ c.2.now = b.created ∧ c.2.fails 0 = false)
    ∧ ∀ d ∈ post, ¬Unbans b d

/-- A removal of the administrator. -/
def Dismisses (name : Text) (c : Cmd × Env) : Prop :=
  c.2.fails 0 = false ∧ ∃ n, c.1 = .removeAdmin n ∧ nocase name n = true

/-- The administrator was added, and not removed since. -/
def Holds (log : Log) (name : Text) : Prop :=
  ∃ pre c post, log = pre ++ c :: post
    ∧ ((∃ server, c.1 = .addAdmin name server) ∧ c.2.fails 0 = false)
    ∧ ∀ d ∈ post, ¬Dismisses name d

/-- The ban is on the name or on the address. -/
def Ban.On (b : Ban) (name ip : Text) : Prop :=
  (nocase b.name name = true ∧ b.name ≠ []) ∨ (b.ip = ip ∧ b.ip ≠ [])

/-- A game that is logged and committed: its name and its players. -/
def logged? (c : Cmd × Env) : Option (Text × List Text) :=
  match c.1 with
  | .logGame name _ _ _ players =>
      if c.2.fails 0 ∨ c.2.fails 1 ∨ c.2.fails (2 + players.length) then none
      else some (name, c.2.inserted 2 players)
  | _ => none

/-- The games that are logged and committed. -/
def Log.games (log : Log) : List (Text × List Text) := log.filterMap logged?

/-- The players of a result, if it is written down: the name it refers
to is that of a game logged before. -/
def result? (games : List Text) (c : Cmd × Env) : List DotAPlayerRecord :=
  match c.1 with
  | .logDotaGame gameName _ _ _ _ players =>
      if c.2.fails 0 ∨ c.2.fails 1 ∨ c.2.fails (3 + players.length) ∨ gameName ∉ games then []
      else c.2.inserted 3 players
  | _ => []

/-- The players of the results that are written down, given the names
of the games logged before. -/
def credited (games : List Text) : Log → List DotAPlayerRecord
  | [] => []
  | c :: log => result? games c ++ credited (games ++ ((logged? c).map Prod.fst).toList) log

/-- What an answer has to be. -/
def Means [Sqlite] (log : Log) (env : Env) : Query → Answer → Prop
  | .isBanned name ip, .ban (some b) => Stands log b ∧ b.On name ip
  | .isBanned name ip, .ban none => env.fails 0 = true ∨ ∀ b, Stands log b → ¬b.On name ip
  | .isAdmin name, .admin yes =>
      yes = true ↔ env.fails 0 = false ∧ ∃ n, nocase n name = true ∧ Holds log n
  | .journalMode, .mode m => m = if env.fails 0 then [] else Sqlite.journalMode
  | .gamePlayerCount gameName, .count n =>
      n = if env.fails 0 then 0
        else ((log.games.filter fun g => g.1 = gameName).map fun g => g.2.length).sum
  | .getDotaStats name, .stats s =>
      s = if env.fails 0 then none
        else Db.summarize ((credited [] log).filter fun p => nocase p.name name)
  | _, _ => False

-- ================================================================ what is kept

section Kept

variable {σ κ β : Type} {f : σ → κ → σ} {R : σ → β → Prop} {adds drops : κ → β → Prop}

/-- Of a table that every command adds to and drops from, an entry is
there if it was from the start or was added, and was not dropped
since. -/
theorem kept_iff (hf : ∀ s c b, R (f s c) b ↔ (R s b ∧ ¬drops c b) ∨ adds c b) (s : σ)
    (log : List κ) (b : β) :
    R (log.foldl f s) b ↔ (R s b ∧ ∀ c ∈ log, ¬drops c b)
      ∨ ∃ pre c post, log = pre ++ c :: post ∧ adds c b ∧ ∀ d ∈ post, ¬drops d b := by
  induction log generalizing s with
  | nil => simp
  | cons c log ih =>
      rw [List.foldl_cons, ih, hf]
      constructor
      · rintro (⟨⟨hs, hc⟩ | hadd, hlog⟩ | ⟨pre, d, post, rfl, hd, hpost⟩)
        · exact .inl ⟨hs, fun d hd => (List.mem_cons.1 hd).elim (fun h => h ▸ hc) (hlog d)⟩
        · exact .inr ⟨[], c, log, rfl, hadd, hlog⟩
        · exact .inr ⟨c :: pre, d, post, rfl, hd, hpost⟩
      · rintro (⟨hs, hall⟩ | ⟨pre, d, post, hlog, hd, hpost⟩)
        · exact .inl ⟨.inl ⟨hs, hall c List.mem_cons_self⟩,
            fun d hd => hall d (List.mem_cons_of_mem _ hd)⟩
        · cases pre with
          | nil =>
              obtain ⟨rfl, rfl⟩ := List.cons.inj hlog
              exact .inl ⟨.inr hd, hpost⟩
          | cons c' pre =>
              obtain ⟨rfl, rfl⟩ := List.cons.inj hlog
              exact .inr ⟨pre, d, post, rfl, hd, hpost⟩

end Kept

-- ======================================================================== tables

/-- A row that is written was one of the rows to write. -/
theorem mem_of_mem_inserted {α : Type} {env : Env} {k : Nat} {rows : List α} {a : α}
    (h : a ∈ env.inserted k rows) : a ∈ rows := by
  obtain ⟨r, hr, hsome⟩ := List.mem_filterMap.1 h
  split at hsome
  · cases hsome
  · obtain rfl := Option.some.inj hsome
    exact List.fst_mem_of_mem_zipIdx hr

namespace Db

variable {db : Db} {env : Env}

/-- A result is written down whole under one game, or not at all. -/
theorem logDotaGame_cases (db : Db) (env : Env) (gameName : Text)
    (winner duration treeHp throneHp : UInt32) (players : List DotAPlayerRecord) :
    db.logDotaGame env gameName winner duration treeHp throneHp players = db
      ∨ ∃ gameId results rows, db.refers gameId = true
        ∧ (∀ r ∈ results, DotaGameRow.gameId r = gameId) ∧ (∀ r ∈ rows, Prod.fst r = gameId)
        ∧ db.logDotaGame env gameName winner duration treeHp throneHp players
          = { db with
              dotaGames := db.dotaGames ++ results
              dotaPlayers := db.dotaPlayers ++ rows } := by
  unfold logDotaGame
  dsimp only
  split
  · exact .inl rfl
  · split
    · rename_i hrefers
      refine .inr ⟨_, _, _, hrefers, fun r hr => ?_, fun r hr => ?_, rfl⟩
      · exact List.eq_of_mem_singleton (mem_of_mem_inserted hr) ▸ rfl
      · obtain ⟨p, -, rfl⟩ := List.mem_map.1 hr
        rfl
    · exact .inl rfl

/-- What a command does to the bans. -/
theorem mem_bans_apply (db : Db) (c : Cmd × Env) (b : Ban) :
    b ∈ (db.apply c.2 c.1).bans ↔ (b ∈ db.bans ∧ ¬Unbans b c)
      ∨ (c.1 = .addBan b.name b.ip b.admin b.reason ∧ c.2.now = b.created
        ∧ c.2.fails 0 = false) := by
  obtain ⟨c, env⟩ := c
  cases c with
  | addBan name ip admin reason =>
      cases hfails : env.fails 0 with
      | true => simp [apply, Unbans, hfails]
      | false =>
          simp only [apply, Unbans, hfails, Bool.false_eq_true, if_false, List.mem_append,
            List.mem_singleton, Cmd.addBan.injEq, reduceCtorEq, false_and, exists_const, and_false,
            not_false_eq_true, and_true]
          refine or_congr_right ⟨?_, ?_⟩
          · rintro rfl
            exact ⟨⟨rfl, rfl, rfl, rfl⟩, rfl⟩
          · rintro ⟨⟨rfl, rfl, rfl, rfl⟩, hcreated⟩
            rw [hcreated]
  | removeBan name => cases hfails : env.fails 0 <;> simp [apply, Unbans, hfails]
  | addAdmin name server => cases hfails : env.fails 0 <;> simp [apply, Unbans, hfails]
  | removeAdmin name => cases hfails : env.fails 0 <;> simp [apply, Unbans, hfails]
  | logGame name map started ended players =>
      simp only [apply, logGame, Unbans]
      split <;> simp
  | logDotaGame gameName winner duration treeHp throneHp players =>
      rcases logDotaGame_cases db env gameName winner duration treeHp throneHp players with h | h
      · simp [apply, h, Unbans]
      · obtain ⟨_, _, _, -, -, -, h⟩ := h
        simp [apply, h, Unbans]
  | recordDownload map mapSize name ip spoofed downloaded duration =>
      cases hfails : env.fails 0 <;> simp [apply, Unbans, hfails]
  | logW3MmdVar gameName pid varName =>
      simp only [apply, Unbans]
      split
      · split <;> simp
      · simp

/-- What a command does to the administrators; one is replaced by
himself. -/
theorem mem_admins_apply (db : Db) (c : Cmd × Env) (name : Text) :
    (∃ server, (name, server) ∈ (db.apply c.2 c.1).admins)
      ↔ ((∃ server, (name, server) ∈ db.admins) ∧ ¬Dismisses name c)
        ∨ ((∃ server, c.1 = .addAdmin name server) ∧ c.2.fails 0 = false) := by
  obtain ⟨c, env⟩ := c
  cases c with
  | addAdmin name' server' =>
      cases hfails : env.fails 0 with
      | true => simp [apply, Dismisses, hfails]
      | false =>
          by_cases hname : name = name'
          · subst hname
            simp [apply, Dismisses, hfails]
          · simp [apply, Dismisses, hfails, hname, Ne.symm hname]
  | removeAdmin n => cases hfails : env.fails 0 <;> simp [apply, Dismisses, hfails]
  | addBan name ip admin reason => cases hfails : env.fails 0 <;> simp [apply, Dismisses, hfails]
  | removeBan name => cases hfails : env.fails 0 <;> simp [apply, Dismisses, hfails]
  | logGame name map started ended players =>
      simp only [apply, logGame, Dismisses]
      split <;> simp
  | logDotaGame gameName winner duration treeHp throneHp players =>
      rcases logDotaGame_cases db env gameName winner duration treeHp throneHp players with h | h
      · simp [apply, h, Dismisses]
      · obtain ⟨_, _, _, -, -, -, h⟩ := h
        simp [apply, h, Dismisses]
  | recordDownload map mapSize name ip spoofed downloaded duration =>
      cases hfails : env.fails 0 <;> simp [apply, Dismisses, hfails]
  | logW3MmdVar gameName pid varName =>
      simp only [apply, Dismisses]
      split
      · split <;> simp
      · simp

/-- A game that is logged gets the next id, and its players that of the
game. -/
theorem apply_of_logged (db : Db) {c : Cmd × Env} {name : Text} {players : List Text}
    (h : logged? c = some (name, players)) :
    ∃ g : GameRow, g.id = db.nextGameId ∧ g.name = name
      ∧ db.apply c.2 c.1 = { db with
          games := db.games ++ [g]
          gamePlayers := db.gamePlayers ++ players.map fun p => (db.nextGameId, p) } := by
  obtain ⟨c, env⟩ := c
  cases c with
  | logGame name' map started ended players' =>
      unfold logged? at h
      dsimp only at h
      split at h
      · cases h
      · rename_i hgo
        cases h
        refine ⟨{ id := db.nextGameId, name, map, started, ended
                  duration := saturatingSub ended started }, rfl, rfl, ?_⟩
        unfold apply logGame
        dsimp only
        rw [if_neg hgo]
  | _ => cases h

/-- Every other command leaves the games and their players alone. -/
theorem apply_of_not_logged (db : Db) {c : Cmd × Env} (h : logged? c = none) :
    (db.apply c.2 c.1).games = db.games ∧ (db.apply c.2 c.1).gamePlayers = db.gamePlayers := by
  obtain ⟨c, env⟩ := c
  cases c with
  | logGame name map started ended players =>
      unfold logged? at h
      dsimp only at h
      split at h
      · rename_i hfails
        unfold apply logGame
        dsimp only
        rw [if_pos hfails]
        exact ⟨rfl, rfl⟩
      · cases h
  | logDotaGame gameName winner duration treeHp throneHp players =>
      rcases logDotaGame_cases db env gameName winner duration treeHp throneHp players with h | h
      · exact ⟨congrArg Db.games h, congrArg Db.gamePlayers h⟩
      · obtain ⟨_, _, _, -, -, -, h⟩ := h
        unfold apply
        dsimp only
        rw [h]
        exact ⟨rfl, rfl⟩
  | logW3MmdVar gameName pid varName =>
      unfold apply
      dsimp only
      split
      · split <;> exact ⟨rfl, rfl⟩
      · exact ⟨rfl, rfl⟩
  | addBan | removeBan | addAdmin | removeAdmin | recordDownload =>
      unfold apply
      dsimp only
      split <;> exact ⟨rfl, rfl⟩

-- ==================================================================== soundness

/-- The games have the ids from 1 on, and every row that refers to a
game refers to one of them. -/
structure Sound (db : Db) : Prop where
  ids : db.games.map GameRow.id = List.range' 1 db.games.length
  gamePlayers : ∀ r ∈ db.gamePlayers, db.refers r.1 = true
  dotaGames : ∀ r ∈ db.dotaGames, db.refers r.gameId = true
  dotaPlayers : ∀ r ∈ db.dotaPlayers, db.refers r.1 = true
  w3mmdVars : ∀ r ∈ db.w3mmdVars, db.refers r.1 = true

/-- The ids there are go up to the number of games. -/
theorem refers_iff {gameId : Nat} (h : db.Sound) :
    db.refers gameId = true ↔ 0 < gameId ∧ gameId ≤ db.games.length := by
  have hmem : db.refers gameId = true ↔ gameId ∈ db.games.map GameRow.id := by
    simp [refers]
  rw [hmem, h.ids, List.mem_range'_1]
  omega

/-- The next one is one more. -/
theorem nextGameId_eq (h : db.Sound) : db.nextGameId = db.games.length + 1 := by
  unfold nextGameId
  rw [h.ids]
  cases hlen : db.games.length with
  | zero => rfl
  | succ n =>
      have hmax : (List.range' 1 (n + 1)).max? = some (n + 1) := by
        rw [List.max?_eq_some_iff]
        exact ⟨List.mem_range'_1.2 (by omega), fun b hb => by
          have := List.mem_range'_1.1 hb
          omega⟩
      rw [hmax]
      rfl

/-- The last game of a name is one of the games. -/
theorem lastGame_refers {name : Text} {gameId : Nat} (h : db.lastGame name = some gameId) :
    db.refers gameId = true := by
  have hmem := List.max?_mem h
  obtain ⟨g, hg, rfl⟩ := List.mem_map.1 hmem
  exact List.any_eq_true.2 ⟨g, (List.mem_filter.1 hg).1, beq_self_eq_true _⟩

/-- There is none if no game has the name. -/
theorem lastGame_eq_none {name : Text} :
    db.lastGame name = none ↔ name ∉ db.games.map GameRow.name := by
  unfold lastGame
  rw [List.max?_eq_none_iff, List.map_eq_nil_iff, List.filter_eq_nil_iff, List.mem_map]
  simp

/-- Rows that refer to the games there are. -/
theorem Sound.rows (h : db.Sound) (results : List DotaGameRow)
    (rows : List (Nat × DotAPlayerRecord)) (vars : List (Nat × UInt8 × Text))
    (hresults : ∀ r ∈ results, db.refers r.gameId = true)
    (hrows : ∀ r ∈ rows, db.refers r.1 = true) (hvars : ∀ r ∈ vars, db.refers r.1 = true) :
    Sound { db with
      dotaGames := db.dotaGames ++ results, dotaPlayers := db.dotaPlayers ++ rows
      w3mmdVars := db.w3mmdVars ++ vars } where
  ids := h.ids
  gamePlayers := h.gamePlayers
  dotaGames := fun r hr => (List.mem_append.1 hr).elim (h.dotaGames r) (hresults r)
  dotaPlayers := fun r hr => (List.mem_append.1 hr).elim (h.dotaPlayers r) (hrows r)
  w3mmdVars := fun r hr => (List.mem_append.1 hr).elim (h.w3mmdVars r) (hvars r)

/-- One more game, and players of it. -/
theorem Sound.game (h : db.Sound) {g : GameRow} (hid : g.id = db.nextGameId)
    (players : List Text) :
    Sound { db with
      games := db.games ++ [g]
      gamePlayers := db.gamePlayers ++ players.map fun p => (db.nextGameId, p) } := by
  have hrefers : ∀ gameId, db.refers gameId = true → Db.refers { db with
      games := db.games ++ [g]
      gamePlayers := db.gamePlayers ++ players.map fun p => (db.nextGameId, p) } gameId = true := by
    intro gameId hgameId
    unfold refers at hgameId ⊢
    rw [List.any_append, hgameId, Bool.true_or]
  refine ⟨?_, fun r hr => ?_, fun r hr => hrefers _ (h.dotaGames r hr),
    fun r hr => hrefers _ (h.dotaPlayers r hr), fun r hr => hrefers _ (h.w3mmdVars r hr)⟩
  · show (db.games ++ [g]).map GameRow.id = List.range' 1 (db.games ++ [g]).length
    rw [List.map_append, h.ids, List.length_append, List.map_singleton, List.length_singleton, hid,
      nextGameId_eq h, List.range'_1_concat, Nat.add_comm 1]
  · rcases List.mem_append.1 hr with hr | hr
    · exact hrefers _ (h.gamePlayers r hr)
    · obtain ⟨p, -, rfl⟩ := List.mem_map.1 hr
      refine List.any_eq_true.2 ⟨g, List.mem_append_right _ List.mem_cons_self, ?_⟩
      rw [hid]
      exact beq_self_eq_true _

/-- Every command keeps the tables sound, whatever fails. -/
theorem Sound.apply (h : db.Sound) (c : Cmd × Env) : (db.apply c.2 c.1).Sound := by
  cases hlogged : logged? c with
  | some game =>
      obtain ⟨g, hid, -, heq⟩ := apply_of_logged db hlogged
      rw [heq]
      exact h.game hid _
  | none =>
      obtain ⟨c, env⟩ := c
      cases c with
      | logGame name map started ended players =>
          -- a game that was not logged left the tables as they were
          obtain ⟨hgames, -⟩ := apply_of_not_logged db hlogged
          unfold Db.apply logGame at hgames ⊢
          dsimp only at hgames ⊢
          split at hgames
          · rename_i hfails
            rw [if_pos hfails]
            exact h
          · simp at hgames
      | logDotaGame gameName winner duration treeHp throneHp players =>
          unfold Db.apply
          dsimp only
          rcases logDotaGame_cases db env gameName winner duration treeHp throneHp players with
            heq | ⟨gameId, results, rows, hrefers, hresults, hrows, heq⟩
          · rw [heq]
            exact h
          · rw [heq]
            have hrows' := h.rows results rows [] (fun r hr => hresults r hr ▸ hrefers)
              (fun r hr => hrows r hr ▸ hrefers) (fun _ hr => absurd hr List.not_mem_nil)
            rwa [List.append_nil] at hrows'
      | logW3MmdVar gameName pid varName =>
          unfold Db.apply
          dsimp only
          split
          · split
            · exact h
            · rename_i gameId _ hgo
              -- the variable is written for a game that is there
              have hrefers : db.refers gameId = true := by simpa using (not_or.1 hgo).2
              have hvar := h.rows [] [] [(gameId, pid, varName)]
                (fun _ hr => absurd hr List.not_mem_nil) (fun _ hr => absurd hr List.not_mem_nil)
                (fun r hr => List.eq_of_mem_singleton hr ▸ hrefers)
              rwa [List.append_nil, List.append_nil] at hvar
          · exact h
      | addBan | removeBan | addAdmin | removeAdmin | recordDownload =>
          unfold Db.apply
          dsimp only
          split <;> exact ⟨h.ids, h.gamePlayers, h.dotaGames, h.dotaPlayers, h.w3mmdVars⟩

-- ===================================================================== games

/-- The names of the games. -/
theorem games_apply (db : Db) (c : Cmd × Env) :
    (db.apply c.2 c.1).games.map GameRow.name
      = db.games.map GameRow.name ++ ((logged? c).map Prod.fst).toList := by
  cases hlogged : logged? c with
  | some game =>
      obtain ⟨g, -, hname, heq⟩ := apply_of_logged db hlogged
      rw [heq, List.map_append, List.map_singleton, hname]
      rfl
  | none =>
      rw [(apply_of_not_logged db hlogged).1]
      exact (List.append_nil _).symm

/-- What a game adds to the number of players under a name. -/
def listed (gameName : Text) (c : Cmd × Env) : Nat :=
  (((logged? c).toList.filter fun g => g.1 = gameName).map fun g => g.2.length).sum

/-- A command adds the players of the game that it logs. -/
theorem playerCount_apply (h : db.Sound) (c : Cmd × Env) (gameName : Text) :
    (db.apply c.2 c.1).playerCount gameName = db.playerCount gameName + listed gameName c := by
  cases hlogged : logged? c with
  | none =>
      obtain ⟨hgames, hplayers⟩ := apply_of_not_logged db hlogged
      unfold playerCount listed
      rw [hgames, hplayers, hlogged]
      rfl
  | some game =>
      obtain ⟨g, hid, hname, heq⟩ := apply_of_logged db hlogged
      have hnext := nextGameId_eq h
      have hold : ∀ r ∈ db.gamePlayers,
          (db.games ++ [g]).countP (fun g => g.id == r.1 && g.name == gameName)
            = db.games.countP fun g => g.id == r.1 && g.name == gameName := by
        -- the new id is nobody's yet
        intro r hr
        have hle := ((refers_iff h).1 (h.gamePlayers r hr)).2
        have hne : (g.id == r.1) = false := by
          rw [beq_eq_false_iff_ne, hid, hnext]
          omega
        rw [List.countP_append, List.countP_singleton, hne]
        rfl
      have hnew : (db.games ++ [g]).countP (fun g => g.id == db.nextGameId && g.name == gameName)
          = if game.1 = gameName then 1 else 0 := by
        have hnone :
            db.games.countP (fun g => g.id == db.nextGameId && g.name == gameName) = 0 := by
          rw [List.countP_eq_zero]
          intro g' hg'
          have hrefers : db.refers g'.id = true :=
            List.any_eq_true.2 ⟨g', hg', beq_self_eq_true _⟩
          have hle := ((refers_iff h).1 hrefers).2
          have hne : (g'.id == db.nextGameId) = false := by
            rw [beq_eq_false_iff_ne, hnext]
            omega
          rw [hne]
          simp
        rw [List.countP_append, hnone, List.countP_singleton, hid, hname, beq_self_eq_true]
        simp
      unfold playerCount listed
      rw [heq, hlogged]
      dsimp only
      rw [List.map_append, List.sum_append, List.map_congr_left hold, List.map_map]
      congr 1
      show (game.2.map fun _ => (db.games ++ [g]).countP
        fun g => g.id == db.nextGameId && g.name == gameName).sum = _
      rw [hnew, List.map_const', List.sum_replicate_nat]
      by_cases hgame : game.1 = gameName <;> simp [hgame]

-- =================================================================== results

/-- A game is found for a result exactly if its name was logged. -/
theorem refers_gameOf (h : db.Sound) (env : Env) (gameName : Text) :
    db.refers (db.gameOf env gameName) = true
      ↔ env.fails 1 = false ∧ gameName ∈ db.games.map GameRow.name := by
  have hzero : db.refers 0 ≠ true := fun hrefers => absurd ((refers_iff h).1 hrefers).1 (by decide)
  unfold gameOf
  cases hfails : env.fails 1 with
  | true => simpa using hzero
  | false =>
      rw [if_neg Bool.false_ne_true]
      cases hlast : db.lastGame gameName with
      | none =>
          rw [lastGame_eq_none] at hlast
          simpa [hlast] using hzero
      | some gameId =>
          have hmem : gameName ∈ db.games.map GameRow.name := by
            by_contra hnot
            rw [lastGame_eq_none.2 hnot] at hlast
            cases hlast
          simp only [Option.getD_some, lastGame_refers hlast, hmem, and_self]

/-- The players of the results. -/
theorem dotaPlayers_apply (h : db.Sound) (c : Cmd × Env) :
    (db.apply c.2 c.1).dotaPlayers.map Prod.snd
      = db.dotaPlayers.map Prod.snd ++ result? (db.games.map GameRow.name) c := by
  obtain ⟨c, env⟩ := c
  cases c with
  | logDotaGame gameName winner duration treeHp throneHp players =>
      have hrefers := refers_gameOf h env gameName
      unfold apply logDotaGame result?
      dsimp only
      by_cases hfails : env.fails 0 = true ∨ env.fails (3 + players.length) = true
      · rw [if_pos hfails, if_pos (by tauto), List.append_nil]
      · rw [if_neg hfails]
        by_cases hgame : db.refers (db.gameOf env gameName) = true
        · obtain ⟨hfound, hmem⟩ := hrefers.1 hgame
          rw [if_pos hgame, if_neg (by simp only [hfound, not_not.2 hmem]; tauto)]
          rw [List.map_append, List.map_map]
          exact congrArg _ (List.map_id _)
        · rw [if_neg hgame, if_pos, List.append_nil]
          by_contra hnot
          refine hgame (hrefers.2 ⟨?_, ?_⟩)
          · rw [← Bool.not_eq_true]
            exact fun hf => hnot (.inr (.inl hf))
          · by_contra hf
            exact hnot (.inr (.inr (.inr hf)))
  | logGame name map started ended players =>
      unfold apply logGame
      dsimp only
      split <;> exact (List.append_nil _).symm
  | logW3MmdVar gameName pid varName =>
      unfold apply
      dsimp only
      split
      · split <;> exact (List.append_nil _).symm
      · exact (List.append_nil _).symm
  | addBan | removeBan | addAdmin | removeAdmin | recordDownload =>
      unfold apply
      dsimp only
      split <;> exact (List.append_nil _).symm

end Db

-- ======================================================================== logs

section Log

variable {db : Db}

/-- Every log leaves sound tables. -/
theorem sound_foldl (h : db.Sound) (log : Log) :
    Db.Sound (log.foldl (fun db c => db.apply c.2 c.1) db) := by
  induction log generalizing db with
  | nil => exact h
  | cons c log ih => exact ih (h.apply c)

/-- So are the tables of a new store. -/
theorem sound_empty : Db.Sound {} where
  ids := rfl
  gamePlayers := fun _ hr => absurd hr List.not_mem_nil
  dotaGames := fun _ hr => absurd hr List.not_mem_nil
  dotaPlayers := fun _ hr => absurd hr List.not_mem_nil
  w3mmdVars := fun _ hr => absurd hr List.not_mem_nil

/-- The players under a name are those of all its games. -/
theorem playerCount_foldl (h : db.Sound) (log : Log) (gameName : Text) :
    Db.playerCount (log.foldl (fun db c => db.apply c.2 c.1) db) gameName
      = db.playerCount gameName + (log.map (Db.listed gameName)).sum := by
  induction log generalizing db with
  | nil => rfl
  | cons c log ih =>
      rw [List.foldl_cons, ih (h.apply c), Db.playerCount_apply h, List.map_cons, List.sum_cons,
        Nat.add_assoc]

/-- The results are those of games that were logged before. -/
theorem dotaPlayers_foldl (h : db.Sound) (log : Log) :
    (Db.dotaPlayers (log.foldl (fun db c => db.apply c.2 c.1) db)).map Prod.snd
      = db.dotaPlayers.map Prod.snd ++ credited (db.games.map GameRow.name) log := by
  induction log generalizing db with
  | nil => exact (List.append_nil _).symm
  | cons c log ih =>
      rw [List.foldl_cons, ih (h.apply c), Db.dotaPlayers_apply h, Db.games_apply, credited,
        List.append_assoc]

variable {log : Log}

/-- The bans in the table are those that stand. -/
theorem mem_bans (b : Ban) : b ∈ log.db.bans ↔ Stands log b := by
  unfold Log.db
  rw [kept_iff (f := fun (db : Db) (c : Cmd × Env) => db.apply c.2 c.1)
    (R := fun (db : Db) b => b ∈ db.bans) Db.mem_bans_apply]
  exact or_iff_right fun h => absurd h.1 List.not_mem_nil

/-- Who is an administrator. -/
theorem mem_admins (name : Text) : (∃ server, (name, server) ∈ log.db.admins) ↔ Holds log name := by
  unfold Log.db
  rw [kept_iff (f := fun (db : Db) (c : Cmd × Env) => db.apply c.2 c.1)
    (R := fun (db : Db) name => ∃ server, (name, server) ∈ db.admins) Db.mem_admins_apply]
  refine or_iff_right fun h => ?_
  obtain ⟨server, hserver⟩ := h.1
  exact absurd hserver List.not_mem_nil

/-- The players under a name, over all games logged. -/
theorem sum_listed (gameName : Text) : (log.map (Db.listed gameName)).sum
    = ((log.games.filter fun g => g.1 = gameName).map fun g => g.2.length).sum := by
  induction log with
  | nil => rfl
  | cons c log ih =>
      rw [List.map_cons, List.sum_cons, ih]
      unfold Log.games Db.listed
      rw [List.filterMap_cons]
      cases logged? c with
      | none => exact Nat.zero_add _
      | some g =>
          dsimp only [Option.toList_some]
          rw [← List.sum_append, ← List.map_append, ← List.filter_append]
          rfl

/-- Which bans hold. -/
theorem bansOn_iff {name ip : Text} {b : Ban} :
    b ∈ log.db.bansOn name ip ↔ Stands log b ∧ b.On name ip := by
  unfold Db.bansOn
  rw [List.mem_filter, mem_bans]
  simp [Ban.On]

/-- Every answer means what it has to. -/
theorem answer_means [Sqlite] (log : Log) (env : Env) (q : Query) :
    Means log env q (log.db.answer env q) := by
  cases q with
  | isBanned name ip =>
      unfold Db.answer
      dsimp only
      cases hfails : env.fails 0 with
      | true => exact .inl hfails
      | false =>
          rw [if_neg Bool.false_ne_true]
          cases hfirst : Sqlite.first (log.db.bansOn name ip) with
          -- which ban is found first does not matter, as any of them is one
          | some b => exact bansOn_iff.1 (Sqlite.first_mem hfirst)
          | none =>
              refine .inr fun b hb hon => ?_
              have hsome := Sqlite.first_isSome (List.ne_nil_of_mem (bansOn_iff.2 ⟨hb, hon⟩))
              rw [hfirst] at hsome
              cases hsome
  | isAdmin name =>
      show (!env.fails 0 && log.db.admins.any fun a => nocase a.1 name) = true ↔ _
      rw [Bool.and_eq_true, Bool.not_eq_true', List.any_eq_true]
      refine and_congr_right fun _ => ⟨?_, ?_⟩
      · rintro ⟨a, ha, hname⟩
        exact ⟨a.1, hname, (mem_admins a.1).1 ⟨a.2, ha⟩⟩
      · rintro ⟨n, hname, hn⟩
        obtain ⟨server, hserver⟩ := (mem_admins n).2 hn
        exact ⟨(n, server), hserver, hname⟩
  | journalMode => rfl
  | gamePlayerCount gameName =>
      -- the count is over the log, whose rows are those of the tables
      have hcount := playerCount_foldl sound_empty log gameName
      rw [sum_listed] at hcount
      show (if env.fails 0 then 0 else log.db.playerCount gameName) = _
      unfold Log.db
      rw [hcount]
      exact congrArg _ (Nat.zero_add _)
  | getDotaStats name =>
      show (if env.fails 0 then none else log.db.queryDotaStats name) = _
      unfold Log.db Db.queryDotaStats
      rw [dotaPlayers_foldl sound_empty]
      rfl

end Log

-- ======================================================================== queue

/-- The commands among messages that are done. -/
def commandsOf (ms : List (Worker.Msg Cmd Query × Env)) : Log :=
  ms.filterMap fun m =>
    match m.1 with
    | .tell c => some (c, m.2)
    | .ask .. => none

/-- The commands among messages. -/
def told (ms : List (Worker.Msg Cmd Query)) : List Cmd :=
  ms.filterMap fun m =>
    match m with
    | .tell c => some c
    | .ask .. => none

/-- The commands among messages, without what the environment decides. -/
theorem told_map (ms : List (Worker.Msg Cmd Query × Env)) :
    told (ms.map Prod.fst) = (commandsOf ms).map Prod.fst := by
  unfold told commandsOf
  rw [List.filterMap_map, List.map_filterMap]
  refine List.filterMap_congr fun m _ => ?_
  obtain ⟨c | ⟨id, q⟩, e⟩ := m <;> rfl

/-- The tables are those of the old log and of all that is done. -/
theorem after_eq [Sqlite] (old : Log) (ms : List (Worker.Msg Cmd Query × Env)) :
    worker.after old.db ms = (old ++ commandsOf ms).db := by
  induction ms generalizing old with
  | nil => exact congrArg Log.db (List.append_nil old).symm
  | cons m ms ih =>
      obtain ⟨c | ⟨id, q⟩, e⟩ := m
      · have hdb : old.db.apply e c = Log.db (old ++ [(c, e)]) := by
          unfold Log.db
          rw [List.foldl_append]
          rfl
        show worker.after (old.db.apply e c) ms = (old ++ (c, e) :: commandsOf ms).db
        rw [hdb, ih, List.append_assoc]
        rfl
      · exact ih old

/-- The store of a process that opens the tables an old log has left. -/
def opened [Sqlite] (old : Log) : Worker.State Db Cmd Query Answer Env := { state := old.db }

/-- In every order of events, a reply answers a question that the worker
has come to, and means what it should for the commands that were
executed before it, with what the environment decided for each; they
include every command the queue had taken when the question was
asked. -/
theorem store_reply_means [Sqlite] {old : Log} {before evs : List (Worker.Event Cmd Query Env)}
    {id : Nat} {a : Answer} (hnew : ¬Worker.Asked (worker.run (opened old) before) id)
    (ha : (id, a) ∈ (worker.run (opened old) (before ++ evs)).replies) :
    ∃ pre env q post, (worker.run (opened old) (before ++ evs)).done
        = pre ++ (.ask id q, env) :: post
      ∧ Means (old ++ commandsOf pre) env q a
      ∧ told (worker.run (opened old) before).taken <+: (commandsOf pre).map Prod.fst := by
  have hrun : worker.run (opened old) (before ++ evs)
      = worker.run (worker.run (opened old) before) evs := List.foldl_append
  rw [hrun] at ha ⊢
  have hsound : worker.Sound old.db (worker.run (opened old) before) :=
    (Worker.sound_start worker old.db).run before
  obtain ⟨pre, env, post, q, hdone, rfl, htaken⟩ := Worker.reply_after hsound hnew ha
  refine ⟨pre, env, q, post, hdone, ?_, ?_⟩
  · show Means (old ++ commandsOf pre) env q (Db.answer env (worker.after old.db pre) q)
    rw [after_eq]
    exact answer_means _ env q
  · rw [← told_map]
    obtain ⟨rest, hrest⟩ := htaken
    rw [← hrest]
    unfold told
    rw [List.filterMap_append]
    exact List.prefix_append _ _

section Asked

/-- SQLite that starts with the oldest row. -/
local instance oldestFirst : Sqlite where
  first rows := rows.head?
  first_mem h := List.mem_of_head? h
  first_isSome h := by
    obtain ⟨b, rest, rfl⟩ := List.exists_cons_of_ne_nil h
    rfl
  journalMode := txt "wal"

/-- A ban on a name, and the question for it in other letters. -/
def banned : List (Worker.Event Cmd Query Env) :=
  [.tell (.addBan (txt "Bob") [] (txt "ann") (txt "leaver"))]

/-- The question of the example. -/
def asksForBan : List (Worker.Event Cmd Query Env) :=
  [.ask 7 (.isBanned (txt "BOB") []), .work ⟨100, fun _ => false⟩, .work ⟨101, fun _ => false⟩]

/-- The ban is found under the name in other letters. -/
theorem store_reply_means_banned :
    ∃ pre env q post, (worker.run (opened []) (banned ++ asksForBan)).done
        = pre ++ (.ask 7 q, env) :: post
      ∧ Means ([] ++ commandsOf pre) env q
        (.ban (some ⟨txt "Bob", [], txt "ann", txt "leaver", 100⟩))
      ∧ told (worker.run (opened []) banned).taken <+: (commandsOf pre).map Prod.fst :=
  store_reply_means (fun h => by
    obtain ⟨q, hq⟩ := h
    exact absurd (List.mem_singleton.1 hq) (by simp)) (by decide +kernel)

end Asked

/-- Whatever fails and in whatever order things happen: the ids of the
games are the numbers from 1 on, and every row that refers to a game
refers to one that is there. -/
theorem store_references [Sqlite] (old : Log) (evs : List (Worker.Event Cmd Query Env)) :
    (worker.run (opened old) evs).state.Sound := by
  have hstate := ((Worker.sound_start worker old.db).run evs).state
  show Db.Sound (worker.run { state := old.db } evs).state
  rw [hstate, after_eq]
  exact sound_foldl sound_empty _

end Spectre.Store
