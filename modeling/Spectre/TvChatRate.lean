/-
How often a viewer gets a message in.

The reading loop counts the messages of a window that begins with the
first message after the last window, or with the loop. So between two
messages that are let through, but for the first, there are five
seconds (`chat_rate`).
-/
import Spectre.TvChatRuns

namespace Spectre.DotaTv

open Lib ChatRelay

-- =================================================================== how often

/-- The instant an event of the `k`th connection reads. -/
def ChatEvent.instant? (k : Nat) : ChatEvent → Option Nat
  | begin j now | read j now => if j = k then some now else none
  | _ => none

/-- Whether it is the end of a message. -/
def ChatFound.isMessage : ChatFound → Bool
  | message .. => true
  | _ => false

/-- The reading task is there, and takes the end of a message. -/
def ChatConn.readsEnd (c : ChatConn) : Bool :=
  c.stage == .talking && decide (c.reading.needs ≤ c.inbox.length)
    && (c.reading.found (c.inbox.take c.reading.needs)).isMessage

/-- An event at which the `k`th connection has read a message. -/
def ChatConn.readsAt (k : Nat) (c : ChatConn) : ChatEvent → Bool
  | .read j _ => j == k && c.readsEnd
  | _ => false

/-- How many messages the `k`th connection has read. -/
def ChatRelay.messagesOf (k : Nat) : List ChatEvent → ChatRelay → Nat
  | [], _ => 0
  | e :: es, r =>
      (if (r.conns[k]?).any fun c => c.readsAt k e then 1 else 0) + messagesOf k es (r.step e)

/-- A connection that has published `said` messages: one in each of `w`
windows that are over, and perhaps one in the window it is in. -/
structure ChatConn.Paced (c : ChatConn) (ts : List Nat) (reads t₀ said : Nat) : Prop where
  counts : c.winCount ≤ reads
  greets : c.stage = .greeting → said = 0 ∧ c.winCount = 0
  talks : c.stage = .talking → c.winStart ∈ ts
    ∧ ∃ w, said ≤ w + min c.winCount 1 ∧ t₀ + w * chatRateWindow ≤ c.winStart
  total : said = 0 ∨ ∃ w, ∃ i ∈ ts, said ≤ w + 1 ∧ t₀ + w * chatRateWindow ≤ i

namespace ChatConn

variable {c : ChatConn} {ts : List Nat} {reads t₀ said : Nat}

/-- Where nothing is said, more instants change nothing. -/
theorem Paced.same (h : c.Paced ts reads t₀ said) {d : ChatConn} {ts' : List Nat} {reads' : Nat}
    (hts : ts ⊆ ts') (hreads : reads ≤ reads') (hstart : d.winStart = c.winStart)
    (hcount : d.winCount = c.winCount) (hstage : d.stage = c.stage ∨ d.stage = .over) :
    d.Paced ts' reads' t₀ said where
  counts := by
    rw [hcount]
    exact Nat.le_trans h.counts hreads
  greets := by
    rw [hcount]
    intro hgreets
    rcases hstage with hsame | hover
    · exact h.greets (hsame ▸ hgreets)
    · rw [hover] at hgreets
      cases hgreets
  talks := by
    rw [hcount, hstart]
    intro htalks
    rcases hstage with hsame | hover
    · obtain ⟨hmem, hwindow⟩ := h.talks (hsame ▸ htalks)
      exact ⟨hts hmem, hwindow⟩
    · rw [hover] at htalks
      cases htalks
  total := by
    rcases h.total with hnone | ⟨w, i, hi, hsome⟩
    · exact .inl hnone
    · exact .inr ⟨w, i, hts hi, hsome⟩

/-- Fewer messages got in. -/
theorem Paced.fewer (h : c.Paced ts reads t₀ said) {said' : Nat} (hfew : said' ≤ said) :
    c.Paced ts reads t₀ said' where
  counts := h.counts
  greets := fun hgreets => ⟨Nat.le_zero.1 ((h.greets hgreets).1 ▸ hfew), (h.greets hgreets).2⟩
  talks := fun htalks => by
    obtain ⟨hmem, w, hw, hwindow⟩ := h.talks htalks
    exact ⟨hmem, w, Nat.le_trans hfew hw, hwindow⟩
  total := by
    rcases h.total with hnone | ⟨w, i, hi, hw, hwindow⟩
    · exact .inl (Nat.le_zero.1 (hnone ▸ hfew))
    · exact .inr ⟨w, i, hi, Nat.le_trans hfew hw, hwindow⟩

/-- The loop begins in its first window. -/
theorem Paced.begin (h : c.Paced ts reads t₀ said) {now : Nat} (hnow : t₀ ≤ now) :
    (c.begin now).Paced (ts ++ [now]) reads t₀ said := by
  have hts : ts ⊆ ts ++ [now] := fun x hx => List.mem_append_left _ hx
  unfold ChatConn.begin
  by_cases hgreets : c.stage = .greeting ∧ c.pending = []
  · rw [if_pos hgreets]
    obtain ⟨hnone, hcount⟩ := h.greets hgreets.1
    refine ⟨h.counts, fun hstage => (by cases hstage), fun _ => ?_, .inl hnone⟩
    refine ⟨List.mem_append_right _ (List.mem_singleton_self _), 0, ?_, ?_⟩
    · rw [hnone]
      exact Nat.zero_le _
    · rw [Nat.zero_mul, Nat.add_zero]
      exact hnow
  · rw [if_neg hgreets]
    exact h.same hts (Nat.le_refl _) rfl rfl (.inl rfl)

/-- A message is let through where its window is a new one, or nothing
was let through in it. -/
theorem Paced.counted (h : c.Paced ts reads t₀ said) (htalks : c.stage = .talking) {d : ChatConn}
    (hstart : d.winStart = c.winStart) (hcount : d.winCount = c.winCount)
    (hstage : d.stage = c.stage) {now said' : Nat} (hclock : ∀ i ∈ ts, i ≤ now)
    (hreads : reads + 1 < 2 ^ 32)
    (hsaid : said' ≤ said + if chatRateMax < (c.counted now).winCount then 0 else 1) :
    (d.counted now).Paced (ts ++ [now]) (reads + 1) t₀ said' := by
  obtain ⟨hmem, w, hw, hwindow⟩ := h.talks htalks
  have hcounts := h.counts
  have hlast := hclock _ hmem
  have hin : now ∈ ts ++ [now] := List.mem_append_right _ (List.mem_singleton_self _)
  have hmax : chatRateMax = 1 := rfl
  unfold ChatConn.counted at hsaid ⊢
  rw [hstart, hcount]
  by_cases hnew : chatRateWindow ≤ now - c.winStart
  · -- one more window is over
    rw [if_pos hnew] at hsaid ⊢
    have hover : t₀ + (w + 1) * chatRateWindow ≤ now := by
      have hend : c.winStart + chatRateWindow ≤ now := by omega
      rw [Nat.succ_mul, ← Nat.add_assoc]
      exact Nat.le_trans (Nat.add_le_add_right hwindow _) hend
    have hle : said' ≤ w + 1 + 1 := by
      rw [hmax, if_neg (Nat.lt_irrefl 1)] at hsaid
      omega
    refine ⟨Nat.le_add_left 1 reads, fun hgreets => ?_, fun _ => ⟨hin, w + 1, hle, hover⟩,
      .inr ⟨w + 1, now, hin, hle, hover⟩⟩
    have hgreets : d.stage = .greeting := hgreets
    rw [hstage, htalks] at hgreets
    cases hgreets
  · rw [if_neg hnew] at hsaid ⊢
    have hmod : (c.winCount + 1) % 2 ^ 32 = c.winCount + 1 := Nat.mod_eq_of_lt (by omega)
    rw [hmod] at hsaid ⊢
    have hle : said' ≤ w + 1 := by
      rw [hmax] at hsaid
      dsimp only at hsaid
      split at hsaid <;> omega
    refine ⟨Nat.succ_le_succ hcounts, fun hgreets => ?_, fun _ => ?_,
      .inr ⟨w, now, hin, hle, Nat.le_trans hwindow hlast⟩⟩
    · have hgreets : d.stage = .greeting := hgreets
      rw [hstage, htalks] at hgreets
      cases hgreets
    · refine ⟨List.mem_append_left _ hmem, w, ?_, hwindow⟩
      dsimp only
      omega

/-- What is not the end of a message is neither counted nor said. -/
theorem read_within (h : c.readsEnd = false) (now : Nat) :
    (c.read now).2 = none ∧ (c.read now).1.winStart = c.winStart
      ∧ (c.read now).1.winCount = c.winCount
      ∧ ((c.read now).1.stage = c.stage ∨ (c.read now).1.stage = .over) := by
  unfold ChatConn.read
  by_cases htalks : c.stage = .talking
  · rw [if_neg (not_not_intro htalks)]
    by_cases hfew : c.inbox.length < c.reading.needs
    · rw [if_pos hfew]
      split
      · exact ⟨rfl, rfl, rfl, .inr rfl⟩
      · exact ⟨rfl, rfl, rfl, .inl rfl⟩
    · rw [if_neg hfew]
      dsimp only
      cases hfound : c.reading.found (c.inbox.take c.reading.needs) with
      | invalid => exact ⟨rfl, rfl, rfl, .inr rfl⟩
      | more r => exact ⟨rfl, rfl, rfl, .inl rfl⟩
      | message kind payload =>
          unfold ChatConn.readsEnd at h
          rw [htalks, hfound, decide_eq_true (Nat.not_lt.1 hfew)] at h
          cases h
  · rw [if_pos htalks]
    exact ⟨rfl, rfl, rfl, .inl rfl⟩

/-- One step of the reading task, which may be the end of a message. -/
theorem Paced.read (h : c.Paced ts reads t₀ said) (hwaits : c.reading.Proper) {now said' : Nat}
    (hclock : ∀ i ∈ ts, i ≤ now) (hreads : reads + (if c.readsEnd then 1 else 0) < 2 ^ 32)
    (hsaid : said' ≤ said + (c.read now).2.toList.length) :
    (c.read now).1.Paced (ts ++ [now]) (reads + if c.readsEnd then 1 else 0) t₀ said' := by
  have hts : ts ⊆ ts ++ [now] := fun x hx => List.mem_append_left _ hx
  cases hend : c.readsEnd with
  | false =>
      obtain ⟨hnone, hstart, hcount, hstage⟩ := read_within hend now
      rw [hnone] at hsaid
      exact (h.same hts (Nat.le_add_right _ _) hstart hcount hstage).fewer hsaid
  | true =>
      rw [hend, if_pos rfl] at hreads
      rw [if_pos rfl]
      have hfewer : said' ≤ said → ∀ d : ChatConn, d.Paced (ts ++ [now]) (reads + 1) t₀ said →
          d.Paced (ts ++ [now]) (reads + 1) t₀ said' := fun hfew d hd => hd.fewer hfew
      rcases c.read_cases hwaits now with hsame | ⟨_, hover⟩ | ⟨_, _, _, _, _, _, _, hmore⟩
        | ⟨m, _, _, htalks, _, _, hmsg⟩
      · rw [hsame] at hsaid ⊢
        exact hfewer hsaid _ (h.same hts (Nat.le_succ _) rfl rfl (.inl rfl))
      · rw [hover] at hsaid ⊢
        exact hfewer hsaid _ (h.same hts (Nat.le_succ _) rfl rfl (.inr rfl))
      · rw [hmore] at hsaid ⊢
        exact hfewer hsaid _ (h.same hts (Nat.le_succ _) rfl rfl (.inl rfl))
      · rw [hmsg] at hsaid ⊢
        refine h.counted (d := { c with inbox := _, reading := .kind }) htalks rfl rfl rfl hclock
          hreads ?_
        dsimp only at hsaid
        by_cases hmany : chatRateMax < (c.counted now).winCount
        · rw [if_pos hmany] at hsaid ⊢
          exact hsaid
        · rw [if_neg hmany] at hsaid ⊢
          exact hsaid

/-- Only the reading loop looks at its window. -/
theorem act_window (c : ChatConn) (tx : Lib.Ring (List UInt8)) {e : ChatEvent}
    (he : ∀ j now, e ≠ .read j now ∧ e ≠ .begin j now) :
    (c.act tx e).winStart = c.winStart ∧ (c.act tx e).winCount = c.winCount
      ∧ ((c.act tx e).stage = c.stage ∨ (c.act tx e).stage = .over) := by
  cases e with
  | read j now => exact absurd rfl (he j now).1
  | begin j now => exact absurd rfl (he j now).2
  | connect => exact ⟨rfl, rfl, .inl rfl⟩
  | hangUp j kept => exact ⟨rfl, rfl, .inl rfl⟩
  | write j n => exact ⟨rfl, rfl, .inl rfl⟩
  | arrive j bytes =>
      unfold ChatConn.act ChatConn.arrive
      dsimp only
      split <;> exact ⟨rfl, rfl, .inl rfl⟩
  | breakOff j =>
      refine ⟨rfl, rfl, ?_⟩
      show (if c.stage = .greeting then ChatStage.over else c.stage) = c.stage
        ∨ (if c.stage = .greeting then ChatStage.over else c.stage) = ChatStage.over
      split
      · exact .inr rfl
      · exact .inl rfl
  | recv j =>
      unfold ChatConn.act ChatConn.recv
      dsimp only
      split
      · exact ⟨rfl, rfl, .inl rfl⟩
      split
      · exact ⟨rfl, rfl, .inl rfl⟩
      split <;> exact ⟨rfl, rfl, .inl rfl⟩
  | stop j =>
      unfold ChatConn.act ChatConn.stop
      dsimp only
      split <;> exact ⟨rfl, rfl, .inl rfl⟩

/-- Every event leaves a connection within its pace. -/
theorem Paced.on (h : c.Paced ts reads t₀ said) (hwaits : c.reading.Proper)
    (tx : Lib.Ring (List UInt8)) (k : Nat) (e : ChatEvent) {said' : Nat}
    (hclock : ∀ now, e.instant? k = some now → t₀ ≤ now ∧ ∀ i ∈ ts, i ≤ now)
    (hreads : reads + (if c.readsAt k e then 1 else 0) < 2 ^ 32)
    (hsaid : said' ≤ said + (c.publishesAt k e).toList.length) :
    (c.on tx k e).Paced (ts ++ (e.instant? k).toList) (reads + if c.readsAt k e then 1 else 0) t₀
      said' := by
  have hts : ts ⊆ ts ++ (e.instant? k).toList := fun x hx => List.mem_append_left _ hx
  -- only reading and beginning look at the clock
  have hplain : ∀ e' : ChatEvent, (∀ j now, e' ≠ .read j now ∧ e' ≠ .begin j now) → said' ≤ said →
      (c.act tx e').Paced (ts ++ (e.instant? k).toList) (reads + if c.readsAt k e then 1 else 0) t₀
        said' := by
    intro e' he hfew
    obtain ⟨hstart, hcount, hstage⟩ := c.act_window tx he
    exact (h.same hts (Nat.le_add_right _ _) hstart hcount hstage).fewer hfew
  unfold ChatConn.on
  unfold ChatConn.publishesAt at hsaid
  by_cases hat : e.at? = some k
  · rw [if_pos hat] at hsaid ⊢
    cases e with
    | connect => cases hat
    | read j now =>
        cases hat
        have hinst : ChatEvent.instant? k (.read k now) = some now := if_pos rfl
        have hread : c.readsAt k (.read k now) = c.readsEnd := by
          show (k == k && c.readsEnd) = c.readsEnd
          rw [beq_self_eq_true, Bool.true_and]
        rw [hread] at hreads ⊢
        rw [hinst]
        exact h.read hwaits (hclock now hinst).2 hreads hsaid
    | begin j now =>
        cases hat
        have hinst : ChatEvent.instant? k (.begin k now) = some now := if_pos rfl
        rw [hinst]
        exact (h.begin (hclock now hinst).1).fewer hsaid
    | arrive j bytes =>
        exact hplain _ (fun i now => ⟨ChatEvent.noConfusion, ChatEvent.noConfusion⟩) hsaid
    | hangUp j kept =>
        exact hplain _ (fun i now => ⟨ChatEvent.noConfusion, ChatEvent.noConfusion⟩) hsaid
    | write j n =>
        exact hplain _ (fun i now => ⟨ChatEvent.noConfusion, ChatEvent.noConfusion⟩) hsaid
    | breakOff j =>
        exact hplain _ (fun i now => ⟨ChatEvent.noConfusion, ChatEvent.noConfusion⟩) hsaid
    | recv j =>
        exact hplain _ (fun i now => ⟨ChatEvent.noConfusion, ChatEvent.noConfusion⟩) hsaid
    | stop j =>
        exact hplain _ (fun i now => ⟨ChatEvent.noConfusion, ChatEvent.noConfusion⟩) hsaid
  · rw [if_neg hat] at hsaid ⊢
    exact (h.same hts (Nat.le_add_right _ _) rfl rfl (.inl rfl)).fewer hsaid

end ChatConn

/-- The messages before an event, and that event. -/
theorem ChatRelay.messagesOf_concat (k : Nat) (es : List ChatEvent) (e : ChatEvent)
    (r : ChatRelay) :
    messagesOf k (es ++ [e]) r = messagesOf k es r
      + if ((ChatRelay.run es r).conns[k]?).any fun c => c.readsAt k e then 1 else 0 := by
  induction es generalizing r with
  | nil =>
      rw [List.nil_append, messagesOf, messagesOf, messagesOf, Nat.add_zero, Nat.zero_add]
      rfl
  | cons e' es ih =>
      rw [List.cons_append, messagesOf, messagesOf, ih, Nat.add_assoc]
      rfl

/-- In a run that keeps to the clock, every connection keeps its pace. -/
theorem ChatRelay.paced_run (es : List ChatEvent) (k : Nat) {t₀ : Nat}
    (hids : (ChatRelay.run es .new).conns.length ≤ 2 ^ 32)
    (hreads : ChatRelay.messagesOf k es .new < 2 ^ 32)
    (hclock : (es.filterMap (ChatEvent.instant? k)).Pairwise (· ≤ ·))
    (hstart : ∀ i ∈ es.filterMap (ChatEvent.instant? k), t₀ ≤ i) {c : ChatConn}
    (hc : (ChatRelay.run es .new).conns[k]? = some c) :
    c.Paced (es.filterMap (ChatEvent.instant? k)) (ChatRelay.messagesOf k es .new) t₀
      ((ChatRelay.run es .new).saidBy c.id).length := by
  induction es using List.reverseRecOn generalizing c with
  | nil => cases hc
  | append_singleton es e ih =>
      have hrun : ChatRelay.run (es ++ [e]) .new = (ChatRelay.run es .new).step e := by
        unfold ChatRelay.run
        rw [List.foldl_append]
        rfl
      have hatt := attributed_new.run es
      have htimes : (es ++ [e]).filterMap (ChatEvent.instant? k)
          = es.filterMap (ChatEvent.instant? k) ++ (e.instant? k).toList := by
        rw [List.filterMap_append, List.filterMap_cons, List.filterMap_nil]
        cases e.instant? k <;> rfl
      have hcount := ChatRelay.messagesOf_concat k es e .new
      rw [htimes] at hclock hstart ⊢
      rw [hcount] at hreads ⊢
      rw [hrun] at hids hc ⊢
      obtain ⟨hbefore, _, hlast⟩ := List.pairwise_append.1 hclock
      have hfew := Nat.le_trans (length_step e) hids
      rcases get_step e hc with ⟨d, hd, rfl⟩ | ⟨rfl, rfl, rfl⟩
      · rw [hd, Option.any_some] at hreads ⊢
        have hpaced := ih hfew (Nat.lt_of_le_of_lt (Nat.le_add_right _ _) hreads) hbefore
          (fun i hi => hstart i (List.mem_append_left _ hi)) hd
        obtain ⟨msgs, hheard, _⟩ := hatt.heard d (List.mem_of_getElem? hd)
        obtain ⟨l, hl, hsaid⟩ := hatt.saidBy_step hfew hd e
        refine hpaced.on hheard.waits _ k e (fun now hnow => ?_) hreads ?_
        · have hmem : now ∈ (e.instant? k).toList := by
            rw [hnow]
            exact List.mem_singleton_self _
          exact ⟨hstart now (List.mem_append_right _ hmem), fun i hi => hlast i hi now hmem⟩
        · rw [ChatConn.on_id, hsaid, List.length_append]
          exact Nat.add_le_add_left hl.length_le _
      · -- a new connection has not begun
        rw [hatt.fresh_silent hids]
        exact ⟨Nat.zero_le _, fun _ => ⟨rfl, rfl⟩, fun h => (by cases h), .inl rfl⟩

/-- Between `t₀` and `t` a connection gets in one message for every
window of five seconds, and one more, however its viewer sends. -/
theorem chat_rate (es : List ChatEvent) (k : Nat) {t₀ t : Nat}
    (hids : (ChatRelay.run es .new).conns.length ≤ 2 ^ 32)
    (hreads : ChatRelay.messagesOf k es .new < 2 ^ 32)
    (hclock : (es.filterMap (ChatEvent.instant? k)).Pairwise (· ≤ ·))
    (hspan : ∀ i ∈ es.filterMap (ChatEvent.instant? k), t₀ ≤ i ∧ i ≤ t) {c : ChatConn}
    (hc : (ChatRelay.run es .new).conns[k]? = some c) :
    ((ChatRelay.run es .new).saidBy c.id).length ≤ 1 + (t - t₀) / chatRateWindow := by
  have hpaced := ChatRelay.paced_run es k hids hreads hclock (fun i hi => (hspan i hi).1) hc
  rcases hpaced.total with hnone | ⟨w, i, hi, hw, hwindow⟩
  · rw [hnone]
    exact Nat.zero_le _
  · have hend := (hspan i hi).2
    have hle : w ≤ (t - t₀) / chatRateWindow := by
      refine (Nat.le_div_iff_mul_le (by decide)).2 ?_
      omega
    omega

/-- The text and the ping of the two viewers come in at once, and only
the text gets in. -/
theorem chat_rate_hello :
    ((ChatRelay.run helloRun .new).saidBy 1).length ≤ 1 + (15 - 10) / chatRateWindow := by
  have hc : ∃ c, (ChatRelay.run helloRun .new).conns[0]? = some c ∧ c.id = 1 :=
    ⟨_, rfl, by decide⟩
  obtain ⟨c, hc, hid⟩ := hc
  have hspan : ∀ i ∈ helloRun.filterMap (ChatEvent.instant? 0), 10 ≤ i ∧ i ≤ 15 := by decide
  have hrate := chat_rate helloRun 0 (by decide) (by decide) (by decide) hspan hc
  rw [hid] at hrate
  exact hrate

end Spectre.DotaTv
