/-
One worker behind a bounded queue.

The worker owns a state and takes messages in the order the queue took
them. A message tells it something, and is dropped when the queue has no
room; or it asks something, and then its sender waits for room, and
after that for the reply. Room that is set free goes to the senders that
wait, in their order, and is theirs until they use it; when they use it
is up to them.

Whatever the order of events, the state is that of the messages done,
one after the other (`Sound.state`), and every reply is the answer of
the state at one place in the order in which the queue took the
messages (`exists_of_reply`). That place is behind everything that was
taken before the question was asked (`reply_after`): who tells the
worker something, and it is taken, and then asks, is answered with it.
-/
import Mathlib.Data.List.Basic

namespace Lib

-- ================================================================== the worker

/-- What a worker does, with what its environment decides in each round:
the state after a command, and the answer to a question. -/
structure Worker (σ κ ρ α ε : Type) where
  cap : Nat
  apply : ε → σ → κ → σ
  answer : ε → σ → ρ → α

namespace Worker

variable {σ κ ρ α ε : Type}

/-- A message in the queue. -/
inductive Msg (κ ρ : Type) where
  | tell (c : κ)
  | ask (id : Nat) (q : ρ)

/-- The state of the worker, its queue, the senders that have room in it
and those that wait for it, what is done, and what was replied to whom. -/
structure State (σ κ ρ α ε : Type) where
  state : σ
  queue : List (Msg κ ρ) := []
  granted : List (Nat × ρ) := []
  waiting : List (Nat × ρ) := []
  done : List (Msg κ ρ × ε) := []
  replies : List (Nat × α) := []

/-- What may happen next: the worker is told or asked something, a
sender uses its room, a sender gives up, the worker takes a message. -/
inductive Event (κ ρ ε : Type) where
  | tell (c : κ)
  | ask (id : Nat) (q : ρ)
  | resume (id : Nat)
  | giveUp (id : Nat)
  | work (e : ε)

namespace State

/-- The places of the queue that are in use. -/
def used (s : State σ κ ρ α ε) : Nat := s.queue.length + s.granted.length

/-- What the queue has taken, in order. -/
def taken (s : State σ κ ρ α ε) : List (Msg κ ρ) := s.done.map Prod.fst ++ s.queue

end State

variable (w : Worker σ κ ρ α ε)

/-- Room for senders that wait. -/
def settle (s : State σ κ ρ α ε) : State σ κ ρ α ε :=
  { s with
    granted := s.granted ++ s.waiting.take (w.cap - s.used)
    waiting := s.waiting.drop (w.cap - s.used) }

/-- What a message does to the state. -/
def next (s : σ) (m : Msg κ ρ × ε) : σ :=
  match m.1 with
  | .tell c => w.apply m.2 s c
  | .ask .. => s

/-- What is replied to a message. -/
def reply? (s : σ) (m : Msg κ ρ × ε) : Option (Nat × α) :=
  match m.1 with
  | .tell _ => none
  | .ask id q => some (id, w.answer m.2 s q)

def step (s : State σ κ ρ α ε) : Event κ ρ ε → State σ κ ρ α ε
  | .tell c => if s.used < w.cap then { s with queue := s.queue ++ [.tell c] } else s
  | .ask id q =>
      if s.used < w.cap then { s with queue := s.queue ++ [.ask id q] }
      else { s with waiting := s.waiting ++ [(id, q)] }
  | .resume id =>
      match s.granted.find? fun g => g.1 == id with
      | some g =>
          { s with
            granted := s.granted.eraseP fun g => g.1 == id
            queue := s.queue ++ [.ask g.1 g.2] }
      | none => s
  | .giveUp id =>
      w.settle { s with
        granted := s.granted.filter fun g => g.1 ≠ id
        waiting := s.waiting.filter fun g => g.1 ≠ id }
  | .work e =>
      match s.queue with
      | [] => s
      | m :: queue =>
          w.settle { s with
            queue
            state := w.next s.state (m, e)
            done := s.done ++ [(m, e)]
            replies := s.replies ++ (w.reply? s.state (m, e)).toList }

def run (s : State σ κ ρ α ε) (evs : List (Event κ ρ ε)) : State σ κ ρ α ε := evs.foldl w.step s

/-- The state after so many messages. -/
def after (s₀ : σ) (ms : List (Msg κ ρ × ε)) : σ := ms.foldl w.next s₀

/-- The replies to so many messages. -/
def repliesTo (s₀ : σ) : List (Msg κ ρ × ε) → List (Nat × α)
  | [] => []
  | m :: ms => (w.reply? s₀ m).toList ++ repliesTo (w.next s₀ m) ms

-- ==================================================================== soundness

/-- The state and the replies are those of the messages done, the queue
is not overfull, and a sender waits only for a queue in full use. -/
structure Sound (s₀ : σ) (s : State σ κ ρ α ε) : Prop where
  state : s.state = w.after s₀ s.done
  replies : s.replies = w.repliesTo s₀ s.done
  room : s.used ≤ w.cap
  full : s.waiting ≠ [] → s.used = w.cap

variable {w} {s₀ : σ} {s t : State σ κ ρ α ε} {id : Nat} {q : ρ} {a : α}

theorem after_concat (ms : List (Msg κ ρ × ε)) (m : Msg κ ρ × ε) :
    w.after s₀ (ms ++ [m]) = w.next (w.after s₀ ms) m := by
  unfold after
  rw [List.foldl_append]
  rfl

theorem repliesTo_append (ms ns : List (Msg κ ρ × ε)) :
    w.repliesTo s₀ (ms ++ ns) = w.repliesTo s₀ ms ++ w.repliesTo (w.after s₀ ms) ns := by
  induction ms generalizing s₀ with
  | nil => rfl
  | cons m ms ih =>
      rw [List.cons_append, repliesTo, repliesTo, ih, List.append_assoc]
      rfl

theorem settle_taken (s : State σ κ ρ α ε) : (w.settle s).taken = s.taken := rfl

/-- Handing out room keeps to the room there is. -/
theorem Sound.settle (hstate : s.state = w.after s₀ s.done)
    (hreplies : s.replies = w.repliesTo s₀ s.done) (hroom : s.used ≤ w.cap) :
    w.Sound s₀ (w.settle s) where
  state := hstate
  replies := hreplies
  room := by
    unfold State.used at hroom
    unfold Worker.settle State.used
    dsimp only
    rw [List.length_append, List.length_take]
    omega
  full := by
    intro hwaiting
    have hdrop : s.waiting.drop (w.cap - s.used) ≠ [] := hwaiting
    rw [ne_eq, List.drop_eq_nil_iff, Nat.not_le] at hdrop
    unfold State.used at hroom hdrop
    unfold Worker.settle State.used
    dsimp only
    rw [List.length_append, List.length_take]
    omega

theorem sound_start (w : Worker σ κ ρ α ε) (s₀ : σ) : w.Sound s₀ { state := s₀ } where
  state := rfl
  replies := rfl
  room := Nat.zero_le _
  full := fun h => absurd rfl h

/-- No event is an exception. -/
theorem Sound.step (h : w.Sound s₀ s) (ev : Event κ ρ ε) : w.Sound s₀ (w.step s ev) := by
  cases ev with
  | tell c =>
      unfold Worker.step
      dsimp only
      by_cases hroom : s.used < w.cap
      · rw [if_pos hroom]
        have hused : (s.queue ++ [Msg.tell c]).length + s.granted.length = s.used + 1 := by
          rw [List.length_append, List.length_singleton]
          unfold State.used
          omega
        exact ⟨h.state, h.replies, Nat.le_trans (Nat.le_of_eq hused) hroom,
          fun hwaiting => absurd (h.full hwaiting) (Nat.ne_of_lt hroom)⟩
      · rw [if_neg hroom]
        exact h
  | ask id q =>
      unfold Worker.step
      dsimp only
      by_cases hroom : s.used < w.cap
      · rw [if_pos hroom]
        have hused : (s.queue ++ [Msg.ask id q]).length + s.granted.length = s.used + 1 := by
          rw [List.length_append, List.length_singleton]
          unfold State.used
          omega
        exact ⟨h.state, h.replies, Nat.le_trans (Nat.le_of_eq hused) hroom,
          fun hwaiting => absurd (h.full hwaiting) (Nat.ne_of_lt hroom)⟩
      · rw [if_neg hroom]
        exact ⟨h.state, h.replies, h.room, fun _ => Nat.le_antisymm h.room (Nat.not_lt.1 hroom)⟩
  | resume id =>
      unfold Worker.step
      dsimp only
      cases hfind : s.granted.find? fun g => g.1 == id with
      | none => exact h
      | some g =>
          -- a place that was kept is filled
          have hused : (s.queue ++ [Msg.ask g.1 g.2]).length
              + (s.granted.eraseP fun g => g.1 == id).length = s.used := by
            have hmem := List.mem_of_find?_eq_some hfind
            have hlen := List.length_eraseP_of_mem hmem (List.find?_some hfind)
            have hpos := List.length_pos_of_mem hmem
            rw [hlen, List.length_append, List.length_singleton]
            unfold State.used
            omega
          exact ⟨h.state, h.replies, Nat.le_trans (Nat.le_of_eq hused) h.room, fun hwaiting =>
            hused.trans (h.full hwaiting)⟩
  | giveUp id =>
      refine Sound.settle h.state h.replies ?_
      have hle := List.length_filter_le (fun g : Nat × ρ => decide (g.1 ≠ id)) s.granted
      have hroom := h.room
      unfold State.used at hroom ⊢
      dsimp only
      omega
  | work e =>
      unfold Worker.step
      dsimp only
      cases hqueue : s.queue with
      | nil => exact h
      | cons m queue =>
          refine Sound.settle ?_ ?_ ?_
          · show w.next s.state (m, e) = w.after s₀ (s.done ++ [(m, e)])
            rw [after_concat, h.state]
          · show s.replies ++ (w.reply? s.state (m, e)).toList
              = w.repliesTo s₀ (s.done ++ [(m, e)])
            rw [repliesTo_append, h.replies, h.state]
            rw [repliesTo, repliesTo, List.append_nil]
          · have hroom := h.room
            unfold State.used at hroom ⊢
            rw [hqueue, List.length_cons] at hroom
            dsimp only
            omega

theorem Sound.run (h : w.Sound s₀ s) (evs : List (Event κ ρ ε)) : w.Sound s₀ (w.run s evs) := by
  induction evs generalizing s with
  | nil => exact h
  | cons ev evs ih => exact ih (h.step ev)

-- ======================================================================== order

/-- What was taken stays taken, in its order. -/
theorem taken_step (s : State σ κ ρ α ε) (ev : Event κ ρ ε) : s.taken <+: (w.step s ev).taken := by
  have hsnoc : ∀ m : Msg κ ρ, s.taken <+: s.done.map Prod.fst ++ (s.queue ++ [m]) := by
    intro m
    rw [← List.append_assoc]
    exact List.prefix_append _ _
  cases ev with
  | tell c =>
      unfold Worker.step
      dsimp only
      split
      · exact hsnoc _
      · exact List.prefix_refl _
  | ask id q =>
      unfold Worker.step
      dsimp only
      split
      · exact hsnoc _
      · exact List.prefix_refl _
  | resume id =>
      unfold Worker.step
      dsimp only
      split
      · exact hsnoc _
      · exact List.prefix_refl _
  | giveUp id => exact List.prefix_refl _
  | work e =>
      unfold Worker.step
      dsimp only
      cases hqueue : s.queue with
      | nil => exact List.prefix_refl _
      | cons m queue =>
          rw [settle_taken]
          unfold State.taken
          rw [hqueue, List.map_append, List.append_assoc]
          exact List.prefix_refl _

theorem taken_run (s : State σ κ ρ α ε) (evs : List (Event κ ρ ε)) :
    s.taken <+: (w.run s evs).taken := by
  induction evs generalizing s with
  | nil => exact List.prefix_refl _
  | cons ev evs ih => exact (taken_step s ev).trans (ih (w.step s ev))

theorem exists_of_mem_repliesTo {ms : List (Msg κ ρ × ε)} (h : (id, a) ∈ w.repliesTo s₀ ms) :
    ∃ pre e post q, ms = pre ++ (.ask id q, e) :: post ∧ a = w.answer e (w.after s₀ pre) q := by
  induction ms generalizing s₀ with
  | nil => cases h
  | cons m ms ih =>
      rw [repliesTo] at h
      rcases List.mem_append.1 h with hm | hms
      · obtain ⟨c | ⟨id', q⟩, e⟩ := m
        · cases hm
        · have heq : (id, a) = (id', w.answer e s₀ q) := List.mem_singleton.1 hm
          cases heq
          exact ⟨[], e, ms, q, rfl, rfl⟩
      · obtain ⟨pre, e, post, q, rfl, rfl⟩ := ih hms
        exact ⟨m :: pre, e, post, q, rfl, rfl⟩

/-- Every reply is the answer of the state at the place the queue took
the question at. -/
theorem exists_of_reply (h : w.Sound s₀ s) (ha : (id, a) ∈ s.replies) :
    ∃ pre e post q, s.done = pre ++ (.ask id q, e) :: post ∧ a = w.answer e (w.after s₀ pre) q :=
  exists_of_mem_repliesTo (h.replies ▸ ha)

/-- The questions of the queue. -/
def Asked (s : State σ κ ρ α ε) (id : Nat) : Prop := ∃ q, Msg.ask id q ∈ s.taken

/-- A question that was not asked by then is answered behind all that
was taken by then. -/
theorem reply_after (h : w.Sound s₀ s) (hnew : ¬Asked s id) {evs : List (Event κ ρ ε)}
    (ha : (id, a) ∈ (w.run s evs).replies) :
    ∃ pre e post q, (w.run s evs).done = pre ++ (.ask id q, e) :: post
      ∧ a = w.answer e (w.after s₀ pre) q ∧ s.taken <+: pre.map Prod.fst := by
  obtain ⟨pre, e, post, q, hdone, ha⟩ := exists_of_reply (h.run evs) ha
  refine ⟨pre, e, post, q, hdone, ha, ?_⟩
  have hprefix : s.taken <+: pre.map Prod.fst
      ++ (.ask id q :: (post.map Prod.fst ++ (w.run s evs).queue)) := by
    have htaken := taken_run (w := w) s evs
    unfold State.taken at htaken ⊢
    rwa [hdone, List.map_append, List.map_cons, List.append_assoc] at htaken
  rcases List.prefix_or_prefix_of_prefix hprefix (List.prefix_append _ _) with hpre | ⟨rest, hrest⟩
  · exact hpre
  · cases rest with
    | nil =>
        rw [List.append_nil] at hrest
        exact hrest ▸ List.prefix_refl _
    | cons m rest =>
        -- the question would be among what was taken
        rw [← hrest, List.prefix_append_right_inj, List.cons_prefix_cons] at hprefix
        refine absurd ⟨q, ?_⟩ hnew
        rw [← hrest, hprefix.1]
        exact List.mem_append_right _ List.mem_cons_self

end Worker

end Lib
