import AltBit.Proofs.Counting
import AltBit.Proofs.Serving

/-!
Serving up to a number of answered frames. The count goes on from one peer to the next. It is the
number of frames received, less those for registered identifiers whose reply was lost, and it stops
at the limit: then nothing more is read from anyone.
-/
namespace AltBit.Command.Serve
open Dispatcher

variable {m : Nat}

namespace Server

/-- The server once it has waited for a frame on a link. -/
def awaiting (s : Server m) (stream : Link.Stream m) : Server m :=
  s.waited (stream.waitForFrame idleWait s.clock).val

/-- A round may begin: nobody has asked to stop, and the limit has not been reached. -/
def GoesOn (stop : Server m → Bool) (limit : Option Nat) (s : Server m) : Prop :=
  stop s = false ∧ ∀ n ∈ limit, s.answered < n

/-- How many frames for registered identifiers were left without a reply on the visits, as writing
it has failed. -/
def lost (visits : List (Visit (Service Rule) m)) : Nat := (visits.flatMap Visit.lostReplies).length

/-- Serving peers has led from `s` to this server, with these visits to their links on the way. -/
inductive Passes (stop : Server m → Bool) (limit : Option Nat) (s : Server m) :
    List (Visit (Service Rule) m) → Server m → Prop
  | start : Passes stop limit s [] s
  /-- A peer is attached, or nobody any longer. -/
  | attach {visits : List (Visit (Service Rule) m)} {t : Server m}
      (h : Passes stop limit s visits t) (stream : Option (Link.Stream m)) :
    Passes stop limit s visits (Serve.attach t stream).val
  /-- A round begins with waiting. -/
  | wait {visits : List (Visit (Service Rule) m)} {t : Server m}
      (h : Passes stop limit s visits t) (hround : t.GoesOn stop limit) {stream : Link.Stream m}
      (hlink : t.dispatcher.link = some stream) :
    Passes stop limit s visits (t.awaiting stream)
  /-- If waiting has not failed, the round goes on with a poll. -/
  | poll {visits : List (Visit (Service Rule) m)} {t : Server m}
      (h : Passes stop limit s visits t) (hround : t.GoesOn stop limit) {stream : Link.Stream m}
      (hlink : t.dispatcher.link = some stream) {ready : Bool}
      (hready : (stream.waitForFrame idleWait t.clock).val.result = .ok ready) :
    Passes stop limit s (visits ++ [(t.awaiting stream).dispatcher.visit])
      (t.awaiting stream).polled.2

variable {stop : Server m → Bool} {limit : Option Nat} {s t u : Server m}
  {visits visits' : List (Visit (Service Rule) m)}

theorem Passes.trans (h : Passes stop limit s visits t) (h' : Passes stop limit t visits' u) :
    Passes stop limit s (visits ++ visits') u := by
  induction h' with
  | start => simpa using h
  | attach _ stream ih => exact ih.attach stream
  | wait _ hround hlink ih => exact ih.wait hround hlink
  | poll _ hround hlink hready ih =>
    rw [← List.append_assoc]
    exact ih.poll hround hlink hready

/-- A poll counts if it has reported a delivery or an unknown identifier. -/
theorem answered_polled (s : Server m) :
    s.polled.2.answered = s.answered + [s.dispatcher.visit].countP Visit.isDelivered +
      [s.dispatcher.visit].countP Visit.isUnknown := by
  have hanswer : s.dispatcher.visit.answer = s.dispatcher.poll.val.1 := rfl
  unfold polled note
  rcases hpoll : s.dispatcher.poll.val.1 with e | p <;> rw [hpoll] at hanswer
  · cases e with
    | unknownIdentifier id => simp [hanswer]
    | link e => by_cases hgone : e = .closed ∨ e.isPeerGone = true <;> simp [hanswer, hgone]
    | duplicateIdentifier id | invalidSessionHandler id => simp [hanswer]
  · cases p <;> simp [hanswer]

theorem answered_polled_le (s : Server m) : s.polled.2.answered ≤ s.answered + 1 := by
  unfold polled note
  split
  · exact Nat.le_succ _
  · exact Nat.le_refl _
  · exact Nat.le_refl _
  · split <;> exact Nat.le_succ _
  · exact Nat.le_succ _

theorem framesReceived_polled (s : Server m) :
    s.polled.2.dispatcher.counters.framesReceived =
      s.dispatcher.counters.framesReceived + [s.dispatcher.visit].countP Visit.isDelivered +
        [s.dispatcher.visit].countP Visit.isUnknown + lost [s.dispatcher.visit] := by
  rw [s.dispatcher_polled]
  exact (course_poll s.dispatcher).tallies.answers

theorem lost_append (visits visits' : List (Visit (Service Rule) m)) :
    lost (visits ++ visits') = lost visits + lost visits' := by
  simp [lost, List.flatMap_append]

/-- What is counted on the way: each frame that is received is answered or left without a reply. -/
theorem Passes.accounts (h : Passes stop limit s visits t) :
    t.answered + lost visits + s.dispatcher.counters.framesReceived =
      t.dispatcher.counters.framesReceived + s.answered := by
  induction h with
  | start => exact Nat.add_comm ..
  | attach _ stream ih => exact ih
  | wait _ _ _ ih => exact ih
  | @poll visits t _ _ stream _ _ _ ih =>
    have hanswered := (t.awaiting stream).answered_polled
    have hreceived := (t.awaiting stream).framesReceived_polled
    have hsame : (t.awaiting stream).answered = t.answered := rfl
    have hsame' : (t.awaiting stream).dispatcher.counters = t.dispatcher.counters := rfl
    rw [hsame] at hanswered
    rw [hsame'] at hreceived
    rw [lost_append]
    omega

/-- A round that may begin counts one frame at most, so the limit is never passed. -/
theorem Passes.answered_le (h : Passes stop limit s visits t) (hs : ∀ n ∈ limit, s.answered ≤ n) :
    ∀ n ∈ limit, t.answered ≤ n := by
  induction h with
  | start => exact hs
  | attach _ stream ih => exact ih
  | wait _ _ _ ih => exact ih
  | @poll visits t _ hround stream _ _ _ _ =>
    intro n hn
    exact Nat.le_trans (t.awaiting stream).answered_polled_le (hround.2 n hn)

/-- From a server that has reached its limit no peer is visited any more. -/
theorem Passes.visits_eq_nil (h : Passes stop limit s visits t) {n : Nat} (hn : n ∈ limit)
    (hs : n ≤ s.answered) : visits = [] ∧ t.answered = s.answered := by
  induction h with
  | start => exact ⟨rfl, rfl⟩
  | attach _ stream ih => exact ih
  | wait _ _ _ ih => exact ih
  | poll _ hround _ _ ih =>
    have hless := hround.2 n hn
    rw [ih.2] at hless
    exact absurd hs (Nat.not_le_of_lt hless)

end Server

open Server

variable {stop : Server m → Bool} {limit : Option Nat}

theorem goesOn_of {s : Server m} (hstop : ¬ stop s = true)
    (hlimit : ¬ limit.any (· ≤ s.answered) = true) : s.GoesOn stop limit := by
  refine ⟨Bool.eq_false_iff.mpr hstop, fun n hn => Nat.lt_of_not_le fun hle => hlimit ?_⟩
  obtain rfl : limit = some n := hn
  simpa using hle

/-- What serving a peer comes to with a round to begin, if it goes on with `rest`. -/
inductive RoundCase (stop : Server m → Bool) (limit : Option Nat) (s : Server m)
    (rest : Server m → Option (Except Failure PeerEnd) × Server m) :
    Option (Except Failure PeerEnd) × Server m → Prop
  | stopped : RoundCase stop limit s rest (some (.ok .stopped), s)
  | reached (hlimit : ∃ n ∈ limit, n ≤ s.answered) :
    RoundCase stop limit s rest (some (.ok .countReached), s)
  | unlinked : RoundCase stop limit s rest (some (.ok .disconnected), s)
  | failed (hround : s.GoesOn stop limit) {stream : Link.Stream m}
      (hlink : s.dispatcher.link = some stream) {r : Except Failure PeerEnd}
      (hr : r ≠ .ok .countReached) :
    RoundCase stop limit s rest (some r, s.awaiting stream)
  | hungUp (hround : s.GoesOn stop limit) {stream : Link.Stream m}
      (hlink : s.dispatcher.link = some stream) {ready : Bool}
      (hready : (stream.waitForFrame idleWait s.clock).val.result = .ok ready) :
    RoundCase stop limit s rest (some (.ok .disconnected), (s.awaiting stream).polled.2)
  | goneOn (hround : s.GoesOn stop limit) {stream : Link.Stream m}
      (hlink : s.dispatcher.link = some stream) {ready : Bool}
      (hready : (stream.waitForFrame idleWait s.clock).val.result = .ok ready) :
    RoundCase stop limit s rest (rest (s.awaiting stream).polled.2)

theorem servePeer_cases (stop : Server m → Bool) (limit : Option Nat) (rounds : Nat)
    (s : Server m) :
    RoundCase stop limit s (fun s' => (servePeer stop limit rounds s').val)
      (servePeer stop limit (rounds + 1) s).val := by
  rw [val_servePeer_succ]
  split
  · exact .stopped
  · next hstop =>
    split
    · next hlimit => exact .reached (by simpa [Option.any_eq_true] using hlimit)
    · next hlimit =>
      have hround := goesOn_of hstop hlimit
      split
      · exact .unlinked
      · next stream hlink =>
        dsimp only
        split
        · exact .failed hround hlink (by split <;> simp)
        · next ready hready =>
          have hhung : RoundCase stop limit s (fun s' => (servePeer stop limit rounds s').val) _ :=
            .hungUp hround hlink hready
          have hgone : RoundCase stop limit s (fun s' => (servePeer stop limit rounds s').val) _ :=
            .goneOn hround hlink hready
          rcases hnext : (s.awaiting stream).polled with ⟨next, s'⟩
          rw [hnext] at hhung hgone
          rw [awaiting] at hnext
          cases next with
          | hangUp => simpa only [hnext] using hhung
          | goOn => simpa only [hnext] using hgone

theorem passes_servePeer (stop : Server m → Bool) (limit : Option Nat) (rounds : Nat)
    (s : Server m) : ∃ visits, Passes stop limit s visits (servePeer stop limit rounds s).val.2 := by
  induction rounds generalizing s with
  | zero => exact ⟨[], .start⟩
  | succ rounds ih =>
    have hcase := servePeer_cases stop limit rounds s
    generalize (servePeer stop limit (rounds + 1) s).val = served at hcase ⊢
    cases hcase with
    | stopped | reached _ | unlinked => exact ⟨[], .start⟩
    | failed hround hlink _ => exact ⟨[], Passes.start.wait hround hlink⟩
    | hungUp hround hlink hready => exact ⟨_, Passes.start.poll hround hlink hready⟩
    | goneOn hround hlink hready =>
      obtain ⟨visits, hrest⟩ := ih _
      exact ⟨_, (Passes.start.poll hround hlink hready).trans hrest⟩

theorem passes_servePeers (stop : Server m → Bool) (limit : Option Nat) (rounds : Nat)
    (path : String) (s : Server m) (callers : List Caller) :
    ∃ visits, Passes stop limit s visits
      (servePeers stop limit rounds path s callers).val.server := by
  induction callers generalizing s with
  | nil => exact ⟨[], .start⟩
  | cons caller rest ih =>
    unfold servePeers
    split
    · exact ⟨[], .start⟩
    · have hattached : Passes stop limit s [] (attach s (some ⟨caller.channel, []⟩)).val :=
        Passes.start.attach _
      obtain ⟨visits, hpeer⟩ := passes_servePeer stop limit rounds
        (attach s (some ⟨caller.channel, []⟩)).val
      have hserved := hattached.trans hpeer
      rcases hresult : (servePeer stop limit rounds (attach s (some ⟨caller.channel, []⟩)).val).val
        with ⟨r, s'⟩
      rw [hresult] at hserved
      simp only [Traced.val_bind, hresult]
      cases r with
      | none => exact ⟨_, hserved⟩
      | some r =>
        cases r with
        | error f => exact ⟨_, hserved⟩
        | ok reason =>
          have hdetached := hserved.attach none
          dsimp only [Traced.val_bind]
          split
          · obtain ⟨visits', hrest⟩ := ih (attach s' none).val
            exact ⟨_, hdetached.trans hrest⟩
          · exact ⟨_, hdetached⟩

/-- The limit is said to be reached by a server that has answered as many frames at least. -/
theorem reached_of_servePeer {rounds : Nat} {s t : Server m}
    (h : (servePeer stop limit rounds s).val = (some (.ok .countReached), t)) :
    ∃ n ∈ limit, n ≤ t.answered := by
  induction rounds generalizing s with
  | zero => cases h
  | succ rounds ih =>
    have hcase := servePeer_cases stop limit rounds s
    generalize (servePeer stop limit (rounds + 1) s).val = served at hcase h
    cases hcase with
    | stopped | unlinked | hungUp _ _ _ => cases h
    | reached hlimit =>
      cases h
      exact hlimit
    | failed _ _ hr =>
      cases h
      exact absurd rfl hr
    | goneOn _ _ _ => exact ih h

/-- A server that has reached its limit ends the round before it begins. -/
theorem servePeer_of_reached {s : Server m} {n : Nat} (hn : n ∈ limit) (hs : n ≤ s.answered)
    (rounds : Nat) : servePeer stop limit (rounds + 1) s =
      pure (some (.ok (if stop s then .stopped else .countReached)), s) := by
  obtain rfl : limit = some n := hn
  cases hstop : stop s <;> simp [servePeer, hstop, hs]

theorem counters_buildDispatcher {T : Type} {echo reliableEcho : List Identifier}
    {d : Dispatcher (Option T) (Service Rule)}
    (hbuild : (buildDispatcher echo reliableEcho).val = .ok d) : d.counters = {} := by
  unfold buildDispatcher at hbuild
  simp only [Traced.val_bind] at hbuild
  split at hbuild
  · cases hbuild
  · rw [← Except.ok.inj hbuild]
    rfl

/-- However peers are served: the answered frames are at every point the frames received less those
for registered identifiers whose reply was lost, and no more than the limit. That the limit is
reached is told only when it is met, and from then on nobody is waited for or polled. -/
theorem answered_up_to_limit (args : ServeArgs)
    {d₀ : Dispatcher (Option (Link.Stream m)) (Service Rule)}
    (hbuild : (buildDispatcher args.echo args.reliableEcho).val = .ok d₀) (clock : Clock)
    (stop : Server m → Bool) (limit : Option Nat) :
    let start : Server m := ⟨d₀, clock, 0⟩
    (∀ rounds path callers, ∃ visits, Passes stop limit start visits
      (servePeers stop limit rounds path start callers).val.server) ∧
    ∀ visits t, Passes stop limit start visits t →
      t.answered + lost visits = t.dispatcher.counters.framesReceived ∧
      (∀ n ∈ limit, t.answered ≤ n) ∧
      (∀ rounds,
        let served := (servePeer stop limit rounds t).val
        (∃ visits', Passes stop limit start (visits ++ visits') served.2) ∧
          (served.1 = some (.ok .countReached) → limit = some served.2.answered)) ∧
      (limit = some t.answered →
        (∀ rounds, servePeer stop limit (rounds + 1) t =
          pure (some (.ok (if stop t then .stopped else .countReached)), t)) ∧
        ∀ visits' u, Passes stop limit t visits' u → visits' = [] ∧ u.answered = t.answered) := by
  intro start
  have hcounters : d₀.counters = {} := counters_buildDispatcher hbuild
  refine ⟨fun rounds path callers => passes_servePeers stop limit rounds path start callers,
    fun visits t h => ?_⟩
  have hle : ∀ {visits : List (Visit (Service Rule) m)} {t : Server m},
      Passes stop limit start visits t → ∀ n ∈ limit, t.answered ≤ n :=
    fun h => h.answered_le fun n _ => Nat.zero_le n
  refine ⟨?_, hle h, fun rounds => ?_, fun hreached => ?_⟩
  · have haccounts := h.accounts
    simpa [start, hcounters] using haccounts
  · obtain ⟨visits', hserved⟩ := passes_servePeer stop limit rounds t
    refine ⟨⟨visits', h.trans hserved⟩, fun hend => ?_⟩
    obtain ⟨n, hn, hle'⟩ := reached_of_servePeer (Prod.ext hend rfl)
    have hsame := Nat.le_antisymm hle' (hle (h.trans hserved) n hn)
    exact hsame ▸ hn
  · have hn : t.answered ∈ limit := hreached
    exact ⟨servePeer_of_reached hn (Nat.le_refl _),
      fun visits' u hu => hu.visits_eq_nil hn (Nat.le_refl _)⟩

/-- A peer to which the first reply cannot be written, and one that sends a frame too many. -/
def callers : List Caller :=
  [⟨{ reads := [.ok [5, 0, 0, 1, 1, 9, 0, 0, 2, 2]], writes := [.error (.system 11)] }, ⟨0, 0⟩⟩,
    Caller.sending [6, 0, 0, 3, 3, 6, 0, 0, 4, 4]]

/-- Of three frames received the first has lost its reply, and nobody is registered for the second;
the fourth is not received any more. -/
theorem answered_up_to_limit_two :
    (buildDispatcher [6] [5]).val = .ok echoing ∧
      ∃ visits served, Passes (fun _ => false) (some 2) ⟨echoing, Clock.ticking 0, 0⟩ visits served ∧
        served = (servePeers (fun _ => false) (some 2) 20 "s" ⟨echoing, Clock.ticking 0, 0⟩
          callers).val.server ∧
        served.answered = 2 ∧ served.dispatcher.counters.framesReceived = 3 ∧ lost visits = 1 ∧
        (servePeer (fun _ => false) (some 2) 1 served).val.1 = some (.ok .countReached) ∧
        some 2 = some (servePeer (fun _ => false) (some 2) 1 served).val.2.answered := by
  have hbuild : (buildDispatcher [6] [5]).val = .ok echoing := rfl
  have hserved : let server := (servePeers (fun _ => false) (some 2) 20 "s"
      ⟨echoing, Clock.ticking 0, 0⟩ callers).val.server
      server.answered = 2 ∧ server.dispatcher.counters.framesReceived = 3 := by
    decide +kernel
  obtain ⟨hpeers, hpasses⟩ := answered_up_to_limit ⟨"s", [6], [5], some 2⟩ hbuild
    (Clock.ticking 0) (fun _ => false) (some 2)
  obtain ⟨visits, h⟩ := hpeers 20 "s" callers
  obtain ⟨hanswered, hreceived⟩ := hserved
  generalize hserver : (servePeers (fun _ => false) (some 2) 20 "s"
    ⟨echoing, Clock.ticking 0, 0⟩ callers).val.server = served at h hanswered hreceived
  obtain ⟨haccounts, -, hend, hreached⟩ := hpasses visits served h
  have hlost : lost visits = 1 := by
    rw [hanswered, hreceived] at haccounts
    omega
  have hcount : (servePeer (fun _ => false) (some 2) 1 served).val.1 = some (.ok .countReached) := by
    rw [(hreached (by rw [hanswered])).1 0]
    rfl
  exact ⟨hbuild, visits, served, h, rfl, hanswered, hreceived, hlost, hcount, (hend 1).2 hcount⟩

end AltBit.Command.Serve
