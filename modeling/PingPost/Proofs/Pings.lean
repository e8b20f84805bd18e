import Mathlib.Data.List.Forall2
import Mathlib.Data.List.Nodup
import PingPost.Proofs.Books

/-!
All PINGs of an auction are sent once and done once: `Exchange.pingAll` gives one result for each
participant, in their order, and leaves the books alone.

A board runs by steps (`Board.next?`). Each step sends one waiting PING or takes in one that is on
its way, so `Board.effort` falls by one and the number of steps that `pingAll` allows is enough.
What a step keeps is `Board.Tracks`: every PING is in one place, and what came of it is related to
its participant as `R` says. `R` is free: whatever holds of a PING that could not be sent and of
one that was taken in holds of every result (`Exchange.pingAll_forall₂`).
-/

namespace PingPost

variable {ω : Type}

/-! ### The next PING to be done -/

namespace Flying

theorem first?_eq_none {fs : List (Flying ω)} (h : first? fs = none) : fs = [] := by
  cases fs with
  | nil => rfl
  | cons f fs =>
    simp only [first?] at h
    split at h
    · cases h
    · split at h <;> cases h

theorem first?_perm {fs : List (Flying ω)} {f : Flying ω} {others : List (Flying ω)}
    (h : first? fs = some (f, others)) : fs.Perm (f :: others) := by
  induction fs generalizing f others with
  | nil => cases h
  | cons g fs ih =>
    simp only [first?] at h
    split at h
    · rename_i hnone
      cases h
      rw [first?_eq_none hnone]
    · rename_i g' rest hsome
      split at h
      · cases h
        exact .refl _
      · cases h
        exact ((ih hsome).cons g).trans (.swap ..)

end Flying

namespace Board

/-- The PINGs by their indices, wherever they are. -/
def places (b : Board ω) : List Nat :=
  b.waiting.map (·.index) ++ (b.flying.map (·.index) ++ b.results.keys)

/-- How many steps are left: a waiting PING has yet to be sent and to be done. -/
def effort (b : Board ω) : Nat := 2 * b.waiting.length + b.flying.length

/-- Every PING of the given indices is in one place, and stays with its participant; what came of
a participant's PING is as `R` says. -/
structure Tracks (R : Participant → PingResult → Prop) (ps : List Participant)
    (indices : List Nat) (b : Board ω) : Prop where
  places : b.places.Perm indices
  waiting : ∀ w ∈ b.waiting, ps[w.index]? = some w.participant
  flying : ∀ f ∈ b.flying, ps[f.index]? = some f.participant
  ordered : b.results.Ordered
  results : ∀ e ∈ b.results, ∃ p, ps[e.1]? = some p ∧ R p e.2

variable {R : Participant → PingResult → Prop} {ps : List Participant} {indices : List Nat}

/-- A result more, of a PING that was in no other place. -/
theorem Tracks.put_result {b : Board ω} (h : b.Tracks R ps indices) {i : Nat}
    {p : Participant} {r : PingResult} (hi : i ∉ b.places) (hp : ps[i]? = some p) (hr : R p r) :
    Tracks R ps (i :: indices) { b with results := b.results.put i r } where
  places := by
    have hkey : i ∉ b.results.keys := fun hk =>
      hi (List.mem_append_right _ (List.mem_append_right _ hk))
    have hput := Table.keys_put_perm hkey r
    refine (((hput.append_left _).append_left _).trans ?_).trans (h.places.cons i)
    exact (List.perm_middle.append_left _).trans List.perm_middle
  waiting := h.waiting
  flying := h.flying
  ordered := h.ordered.put i r
  results := by
    intro e he
    rcases Table.mem_put he with rfl | he
    · exact ⟨p, hp, hr⟩
    · exact h.results e he

/-- When all PINGs are done, the results stand in the order of the participants. -/
theorem Tracks.forall₂ {b : Board ω} (h : b.Tracks R ps (List.range ps.length))
    (hw : b.waiting = []) (hf : b.flying = []) : List.Forall₂ R ps (b.results.map (·.2)) := by
  have hkeys : b.results.keys = List.range ps.length := by
    have hperm : b.results.keys.Perm (List.range ps.length) := by
      simpa [Board.places, hw, hf] using h.places
    have hsorted : b.results.keys.Pairwise (· < ·) := List.pairwise_map.mpr h.ordered
    exact hperm.eq_of_pairwise (fun a b _ _ hab hba => absurd hab (Nat.lt_asymm hba)) hsorted
      List.pairwise_lt_range
  have hlen : ps.length = b.results.length := by
    have := congrArg List.length hkeys
    simpa [Table.keys] using this.symm
  refine List.forall₂_iff_get.mpr ⟨by simpa using hlen, fun i hi hi' => ?_⟩
  have hir : i < b.results.length := hlen ▸ hi
  have hkey : (b.results[i]).1 = i := by
    have : b.results.keys[i]? = some i := by rw [hkeys, List.getElem?_range hi]
    simpa [Table.keys, hir] using this
  obtain ⟨p, hp, hr⟩ := h.results b.results[i] (List.getElem_mem hir)
  rw [hkey, List.getElem?_eq_getElem hi, Option.some.injEq] at hp
  simpa [hp] using hr

/-! ### The start -/

theorem start_tracks (hunasked : ∀ p e, R p (p.unasked e)) (x : Exchange ω) (lead : Lead)
    (now : Instant) (i : Nat) (rest : List Participant) (hrest : ps.drop i = rest) :
    (start x lead now i rest).Tracks R ps (List.range' i rest.length) ∧
      (start x lead now i rest).effort ≤ 2 * rest.length ∧
      x.Appends [] (start x lead now i rest).exchange := by
  induction rest generalizing x i with
  | nil =>
    have hempty : Tracks R ps [] (⟨x, 0, [], [], []⟩ : Board ω) :=
      ⟨.refl _, by simp, by simp, .nil, by simp⟩
    exact ⟨hempty, Nat.le_refl _, .refl x⟩
  | cons p rest ih =>
    obtain ⟨hp, hdrop⟩ : ps[i]? = some p ∧ ps.drop (i + 1) = rest := by
      rw [← List.head?_drop, ← List.tail_drop, hrest]
      exact ⟨rfl, rfl⟩
    have hpay := x.payload_appends .ping lead p.buyer p.service now
    simp only [start, List.length_cons, List.range'_succ]
    split
    · rename_i e y heq
      rw [heq] at hpay
      obtain ⟨htracks, heffort, hframe⟩ := ih y (i + 1) hdrop
      have hi : i ∉ (start y lead now (i + 1) rest).places := by
        rw [htracks.places.mem_iff, List.mem_range'_1]
        omega
      refine ⟨htracks.put_result hi hp (hunasked p e), ?_, hpay.after hframe⟩
      exact Nat.le_trans heffort (by omega)
    · rename_i body y heq
      rw [heq] at hpay
      obtain ⟨htracks, heffort, hframe⟩ := ih y (i + 1) hdrop
      refine ⟨⟨htracks.places.cons i, ?_, htracks.flying, htracks.ordered, htracks.results⟩, ?_,
        hpay.after hframe⟩
      · intro w hw
        rcases List.mem_cons.mp hw with rfl | hw
        · exact hp
        · exact htracks.waiting w hw
      · simp only [effort, List.length_cons] at heffort ⊢
        omega

/-- At the start every PING waits with its payload, or is done because there is none; nothing has
changed but the monitor, and whether a transform broke off. -/
structure Started (x : Exchange ω) (lead : Lead) (now : Instant) (ps : List Participant)
    (b : Board ω) : Prop where
  exchange : ∃ monitor interrupted, b.exchange = { x with monitor, interrupted }
  waiting : ∀ w ∈ b.waiting, ps[w.index]? = some w.participant ∧
    x.engine.pingPayload lead w.participant.buyer w.participant.service now = .ok w.body
  flying : b.flying = []
  results : ∀ r ∈ b.results, ∃ p e, ps[r.1]? = some p ∧ r.2 = p.unasked e ∧
    x.engine.pingPayload lead p.buyer p.service now = .error e

theorem start_started (x : Exchange ω) (lead : Lead) (now : Instant) (i : Nat)
    (rest : List Participant) (hrest : ps.drop i = rest) :
    Started x lead now ps (start x lead now i rest) := by
  induction rest generalizing x i with
  | nil => exact ⟨⟨x.monitor, x.interrupted, rfl⟩, by simp [start], rfl, by simp [start]⟩
  | cons p rest ih =>
    obtain ⟨hp, hdrop⟩ : ps[i]? = some p ∧ ps.drop (i + 1) = rest := by
      rw [← List.head?_drop, ← List.tail_drop, hrest]
      exact ⟨rfl, rfl⟩
    simp only [start, Exchange.payload]
    rcases hpay : x.engine.pingPayload lead p.buyer p.service now with e | body
    · obtain ⟨monitor, interrupted, hnote⟩ := x.notePayload_eq (.error e)
      obtain ⟨hexchange, hwaiting, hflying, hresults⟩ :=
        ih { x with monitor, interrupted } (i + 1) hdrop
      rw [hnote]
      refine ⟨hexchange, hwaiting, hflying, fun r hr => ?_⟩
      rcases Table.mem_put hr with rfl | hr
      · exact ⟨p, e, hp, rfl, hpay⟩
      · exact hresults r hr
    · obtain ⟨monitor, interrupted, hnote⟩ := x.notePayload_eq (.ok body)
      obtain ⟨hexchange, hwaiting, hflying, hresults⟩ :=
        ih { x with monitor, interrupted } (i + 1) hdrop
      rw [hnote]
      exact ⟨hexchange, List.forall_mem_cons.mpr ⟨⟨hp, hpay⟩, hwaiting⟩, hflying, hresults⟩

/-- The exchange at the start has made one payload after the other. -/
theorem start_cons_exchange (x : Exchange ω) (lead : Lead) (now : Instant) (i : Nat)
    (p : Participant) (rest : List Participant) :
    (start x lead now i (p :: rest)).exchange =
      (start (x.payload .ping lead p.buyer p.service now).2 lead now (i + 1) rest).exchange := by
  rcases hpayload : x.payload .ping lead p.buyer p.service now with ⟨_ | _, y⟩ <;>
    simp only [start, hpayload]

/-- What withstands that a payload is made holds at the start. -/
theorem start_induction {P : Exchange ω → Prop} {lead : Lead} {now : Instant}
    (hpayload : ∀ p ∈ ps, ∀ x : Exchange ω, P x → P (x.payload .ping lead p.buyer p.service now).2)
    {x : Exchange ω} (hx : P x) (i : Nat) : P (start x lead now i ps).exchange := by
  induction ps generalizing x i with
  | nil => exact hx
  | cons p ps ih =>
    obtain ⟨hp, hps⟩ := List.forall_mem_cons.mp hpayload
    rw [start_cons_exchange]
    exact ih hps (hp x hx) (i + 1)

/-! ### A step -/

theorem settle_appends (x : Exchange ω) (facts : Json) (f : Flying ω) :
    x.Appends [] (settle x facts f).2 := by
  have harrive := x.arrive_appends f.flight
  unfold settle
  dsimp only
  split
  · exact .refl x
  · split
    · exact harrive
    · rename_i reply _
      exact harrive.after (Exchange.readPing_appends _ f.participant.buyer.id reply.code reply.body)

/-- Taking in a PING moves it from those on their way to the results. -/
theorem Tracks.land (hsettle : ∀ x facts (f : Flying ω), R f.participant (settle x facts f).1)
    {b : Board ω} {facts : Json} {f : Flying ω} {others : List (Flying ω)}
    (h : b.Tracks R ps indices) (hnodup : indices.Nodup) (hf : b.flying.Perm (f :: others)) :
    (b.land facts f others).Tracks R ps indices := by
  -- The board without the PING, which is then in no place.
  let c : Board ω := { b.land facts f others with results := b.results }
  have hplaces : b.places.Perm (f.index :: c.places) := by
    have hmap := (hf.map (·.index)).append_right b.results.keys
    exact (hmap.append_left _).trans List.perm_middle
  have hmem : f ∈ b.flying := hf.mem_iff.mpr List.mem_cons_self
  have hind := h.places.symm.trans hplaces
  have hc : c.Tracks R ps c.places :=
    ⟨.refl _, h.waiting, fun g hg => h.flying g (hf.mem_iff.mpr (List.mem_cons_of_mem f hg)),
      h.ordered, h.results⟩
  have hfresh : f.index ∉ c.places := (List.nodup_cons.mp (hind.nodup_iff.mp hnodup)).1
  have hput := hc.put_result hfresh (h.flying f hmem) (hsettle b.exchange facts f)
  exact ⟨hput.places.trans hind.symm, hput.waiting, hput.flying, hput.ordered, hput.results⟩

variable [Transport ω]

/-- Sending a PING moves it from the waiting ones to those on their way. -/
theorem Tracks.launch {b : Board ω} {w : Waiting} {rest : List Waiting}
    (h : b.Tracks R ps indices) (hw : b.waiting = w :: rest) :
    (b.launch w rest).Tracks R ps indices where
  places := by
    refine List.Perm.trans ?_ h.places
    simp only [Board.places, Board.launch, hw, List.map_append, List.map_cons, List.map_nil,
      List.append_assoc, List.cons_append, List.nil_append]
    exact (List.perm_middle.append_left _).trans List.perm_middle
  waiting w' hw' := h.waiting w' (hw ▸ List.mem_cons_of_mem w hw')
  flying := by
    intro f hf
    rcases List.mem_append.mp hf with hf | hf
    · exact h.flying f hf
    · cases List.mem_singleton.mp hf
      exact h.waiting w (hw ▸ List.mem_cons_self)
  ordered := h.ordered
  results := h.results

/-- What happens next: a waiting PING is sent, or one on its way is taken in. -/
theorem next?_cases {b b' : Board ω} {facts : Json} (h : b.next? facts = some b') :
    (∃ w rest, b.waiting = w :: rest ∧ b' = b.launch w rest) ∨
      ∃ f others, b.flying.Perm (f :: others) ∧ b' = b.land facts f others := by
  unfold next? at h
  split at h
  · cases h
  · rename_i w rest _ hw
    exact .inl ⟨w, rest, hw, by cases h; rfl⟩
  · rename_i f others hf _
    exact .inr ⟨f, others, Flying.first?_perm hf, by cases h; rfl⟩
  · rename_i f others w rest hf hw
    split at h
    · exact .inr ⟨f, others, Flying.first?_perm hf, by cases h; rfl⟩
    split at h
    · exact .inl ⟨w, rest, hw, by cases h; rfl⟩
    · exact .inr ⟨f, others, Flying.first?_perm hf, by cases h; rfl⟩

theorem next?_eq_none {b : Board ω} {facts : Json} (h : b.next? facts = none) :
    b.waiting = [] ∧ b.flying = [] := by
  unfold next? at h
  split at h
  · rename_i hf hw
    exact ⟨hw, Flying.first?_eq_none hf⟩
  · cases h
  · cases h
  · split at h
    · cases h
    split at h <;> cases h

theorem next?_effort {b b' : Board ω} {facts : Json} (h : b.next? facts = some b') :
    b'.effort + 1 = b.effort := by
  rcases next?_cases h with ⟨w, rest, hw, rfl⟩ | ⟨f, others, hf, rfl⟩
  · simp only [effort, launch, hw, List.length_append, List.length_cons, List.length_nil]
    omega
  · simp only [effort, land, hf.length_eq, List.length_cons]
    omega

theorem next?_appends {b b' : Board ω} {facts : Json} (h : b.next? facts = some b') :
    b.exchange.Appends [] b'.exchange := by
  rcases next?_cases h with ⟨w, rest, _, rfl⟩ | ⟨f, others, _, rfl⟩
  · exact b.exchange.launch_appends _
  · exact (settle_appends b.exchange facts f).after (Exchange.noteResponse_appends _ _ _ _)

theorem Tracks.next? (hsettle : ∀ x facts (f : Flying ω), R f.participant (settle x facts f).1)
    {b b' : Board ω} {facts : Json} (h : b.Tracks R ps indices) (hnodup : indices.Nodup)
    (hn : b.next? facts = some b') : b'.Tracks R ps indices := by
  rcases next?_cases hn with ⟨w, rest, hw, rfl⟩ | ⟨f, others, hf, rfl⟩
  · exact h.launch hw
  · exact h.land hsettle hnodup hf

/-! ### A run -/

theorem run_appends (facts : Json) (n : Nat) (b : Board ω) :
    b.exchange.Appends [] (run facts n b).exchange := by
  induction n generalizing b with
  | zero => exact .refl _
  | succ n ih =>
    unfold run
    split
    · exact .refl _
    · rename_i b' hn
      exact (next?_appends hn).after (ih b')

/-- With as many steps as there is effort, all PINGs are done. -/
theorem run_done (facts : Json) {n : Nat} {b : Board ω} (h : b.effort ≤ n) :
    (run facts n b).waiting = [] ∧ (run facts n b).flying = [] := by
  induction n generalizing b with
  | zero =>
    simp only [effort] at h
    simp only [run]
    exact ⟨List.eq_nil_of_length_eq_zero (by omega), List.eq_nil_of_length_eq_zero (by omega)⟩
  | succ n ih =>
    unfold run
    split
    · rename_i hn
      exact next?_eq_none hn
    · rename_i b' hn
      have hstep := next?_effort hn
      exact ih (by omega)

theorem Tracks.run (hsettle : ∀ x facts (f : Flying ω), R f.participant (settle x facts f).1)
    {facts : Json} {n : Nat} {b : Board ω} (h : b.Tracks R ps indices)
    (hnodup : indices.Nodup) : (run facts n b).Tracks R ps indices := by
  induction n generalizing b with
  | zero => exact h
  | succ n ih =>
    unfold Board.run
    split
    · exact h
    · rename_i b' hn
      exact ih (h.next? hsettle hnodup hn)

theorem run_succ (facts : Json) (n : Nat) (b : Board ω) :
    run facts (n + 1) b = ((run facts n b).next? facts).getD (run facts n b) := by
  induction n generalizing b with
  | zero =>
    simp only [run]
    cases b.next? facts <;> rfl
  | succ n ih =>
    rw [run]
    cases hn : b.next? facts with
    | none => simp [run, hn]
    | some b' => simp only [run, hn] at ih ⊢; exact ih b'

/-- What every step keeps, holds after a run. At each step every PING is in one place. -/
theorem run_induction {P : Board ω → Prop} {facts : Json} (hnodup : indices.Nodup)
    (hstep : ∀ b b' : Board ω, b.Tracks (fun _ _ => True) ps indices → P b →
      b.next? facts = some b' → P b') (n : Nat) {b : Board ω}
    (h : b.Tracks (fun _ _ => True) ps indices) (hb : P b) : P (run facts n b) := by
  induction n generalizing b with
  | zero => exact hb
  | succ n ih =>
    rw [run]
    split
    · exact hb
    · rename_i b' hn
      exact ih (h.next? (fun _ _ _ => trivial) hnodup hn) (hstep b b' h hb hn)

end Board

namespace Exchange

variable [Transport ω]

/-- The board of an auction after some steps. -/
def board (x : Exchange ω) (lead : Lead) (ps : List Participant) (now : Instant) (n : Nat) :
    Board ω :=
  Board.run (.object (lead.facts now)) n (Board.start x lead now 0 ps)

omit [Transport ω] in
theorem start_tracks_range (x : Exchange ω) (lead : Lead) (ps : List Participant)
    (now : Instant) : (Board.start x lead now 0 ps).Tracks (fun _ _ => True) ps
      (List.range ps.length) := by
  rw [List.range_eq_range']
  exact (Board.start_tracks (fun _ _ => trivial) x lead now 0 ps rfl).1

theorem board_started (x : Exchange ω) (lead : Lead) (ps : List Participant) (now : Instant) :
    Board.Started x lead now ps (x.board lead ps now 0) :=
  Board.start_started x lead now 0 ps rfl

/-- What holds at the start of an auction's PINGs and is kept by every step, always holds. -/
theorem board_induction {P : Board ω → Prop} {x : Exchange ω} {lead : Lead}
    {ps : List Participant} {now : Instant}
    (hstart : P (x.board lead ps now 0))
    (hstep : ∀ b b' : Board ω, b.Tracks (fun _ _ => True) ps (List.range ps.length) → P b →
      b.next? (.object (lead.facts now)) = some b' → P b') (n : Nat) :
    P (x.board lead ps now n) :=
  Board.run_induction List.nodup_range hstep n (x.start_tracks_range lead ps now) hstart

/-- An auction waits until all its PINGs are done. -/
theorem board_done (x : Exchange ω) (lead : Lead) (ps : List Participant) (now : Instant) :
    (x.board lead ps now (2 * ps.length)).waiting = [] ∧
      (x.board lead ps now (2 * ps.length)).flying = [] :=
  Board.run_done _
    (Board.start_tracks (R := fun _ _ => True) (fun _ _ => trivial) x lead now 0 ps rfl).2.1

/-- What holds of all that came of PINGs so far, holds of the results in the end. -/
theorem pingAll_forall₂_of_board {S : Participant → PingResult → Prop} {x : Exchange ω}
    {lead : Lead} {ps : List Participant} {now : Instant}
    (h : ∀ n, ∀ r ∈ (x.board lead ps now n).results, ∃ p, ps[r.1]? = some p ∧ S p r.2) :
    List.Forall₂ S ps (x.pingAll lead ps now).1 := by
  have htracks : (x.board lead ps now (2 * ps.length)).Tracks (fun _ _ => True) ps
      (List.range ps.length) :=
    (x.start_tracks_range lead ps now).run (fun _ _ _ => trivial) List.nodup_range
  obtain ⟨hw, hf⟩ := x.board_done lead ps now
  have htold : (x.board lead ps now (2 * ps.length)).Tracks S ps (List.range ps.length) :=
    { htracks with results := h _ }
  exact htold.forall₂ hw hf

theorem pingAll_appends (x : Exchange ω) (lead : Lead) (ps : List Participant) (now : Instant) :
    x.Appends [] (x.pingAll lead ps now).2 :=
  (Board.start_tracks (R := fun _ _ => True) (fun _ _ => trivial) x lead now 0 ps rfl).2.2.after
    (Board.run_appends ..)

/-- **Every participant is asked once, and every PING is done.** What holds of a PING that could
not be sent and of one that was taken in holds of the results, in the order of the participants. -/
theorem pingAll_forall₂ {R : Participant → PingResult → Prop}
    (hunasked : ∀ p e, R p (p.unasked e))
    (hsettle : ∀ (x : Exchange ω) facts (f : Flying ω), R f.participant (Board.settle x facts f).1)
    (x : Exchange ω) (lead : Lead) (ps : List Participant) (now : Instant) :
    List.Forall₂ R ps (x.pingAll lead ps now).1 := by
  obtain ⟨hstart, heffort, -⟩ := Board.start_tracks hunasked x lead now 0 ps rfl
  rw [← List.range_eq_range'] at hstart
  obtain ⟨hw, hf⟩ := Board.run_done (.object (lead.facts now)) heffort
  exact (hstart.run hsettle List.nodup_range).forall₂ hw hf

end Exchange

end PingPost
