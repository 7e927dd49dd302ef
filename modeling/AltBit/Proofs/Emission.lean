import AltBit.Proofs.Alignment

/-!
How a frame gets onto a byte channel, call by call. Each write offers what the channel has not
taken yet, so however the channel cuts, interrupts or refuses, it has taken the first bytes of the
frame at any time, none skipped and none twice. The channel is flushed once it has taken them all,
and the last call alone says how the write ends.
-/
namespace AltBit

namespace ByteChannel

/-- A call made for a frame that goes out, with the channel's answer. -/
inductive Outgoing where
  | write (offered : List UInt8) (answer : Except IoError Nat)
  | flush (answer : Except IoError Unit)

namespace Outgoing

/-- The bytes that the call has offered, if it was a write. -/
def offered? : Outgoing → Option (List UInt8)
  | write offered _ => some offered
  | flush _ => none

/-- How many bytes the channel has taken with the call. -/
def taken : Outgoing → Nat
  | write _ answer => ByteChannel.taken answer
  | flush _ => 0

/-- The bytes that the channel has taken with the call. -/
def piece : Outgoing → List UInt8
  | write offered answer => offered.take (ByteChannel.taken answer)
  | flush _ => []

def isInterrupted : Outgoing → Bool
  | write _ answer => isInterruption answer
  | flush answer => isInterruption answer

/-- How the call ends the write, unless it has to go on: it fails for another reason than an
interruption, no byte is taken, or a flush succeeds. -/
def settles? : Outgoing → Option (Except LinkError Unit)
  | write _ (.ok 0) => some (.error .closed)
  | write _ (.ok (_ + 1)) => none
  | flush (.ok ()) => some (.ok ())
  | write _ (.error e) | flush (.error e) => if e.isInterrupted then none else some (.error (.io e))

variable {call : Outgoing}

theorem settles?_of_isInterrupted (h : call.isInterrupted = true) : call.settles? = none := by
  cases call with
  | write _ answer =>
    cases answer with
    | ok k => cases h
    | error e => exact if_pos h
  | flush answer =>
    cases answer with
    | ok => cases h
    | error e => exact if_pos h

theorem not_interrupted_of_settles? {e : IoError} (h : call.settles? = some (.error (.io e))) :
    e.isInterrupted = false := by
  have hfailed {e' : IoError}
      (h : (if e'.isInterrupted then none else some (.error (.io e'))) =
        some (Except.error (.io e) : Except LinkError Unit)) : e.isInterrupted = false := by
    split at h
    · cases h
    · rename_i hnot
      cases h
      exact Bool.eq_false_iff.mpr hnot
  rcases call with ⟨_, e' | ⟨_ | _⟩⟩ | ⟨e' | _⟩
  · exact hfailed h
  · cases h
  · cases h
  · exact hfailed h
  · cases h

theorem settles?_eq_ok (h : call.settles? = some (.ok ())) : call = .flush (.ok ()) := by
  rcases call with ⟨_, e | ⟨_ | _⟩⟩ | ⟨e | _⟩
  · simp [settles?] at h
  · cases h
  · cases h
  · simp [settles?] at h
  · rfl

end Outgoing

/-- How many bytes the channel has taken with some calls. -/
def position : List Outgoing → Nat
  | [] => 0
  | call :: calls => call.taken + position calls

@[simp] theorem position_cons (call : Outgoing) (calls : List Outgoing) :
    position (call :: calls) = call.taken + position calls := rfl

@[simp] theorem position_append (before after : List Outgoing) :
    position (before ++ after) = position before + position after := by
  induction before with
  | nil => simp [position]
  | cons call before ih => simp [ih, Nat.add_assoc]

/-- The calls, made one after another, get these answers and take the channel from one state to the
other. -/
inductive Makes : ByteChannel → List Outgoing → ByteChannel → Prop
  | nothing (c : ByteChannel) : Makes c [] c
  | write {c c' : ByteChannel} {calls : List Outgoing} (bytes : List UInt8) :
    Makes (c.write bytes).2 calls c' → Makes c (.write bytes (c.write bytes).1 :: calls) c'
  | flush {c c' : ByteChannel} {calls : List Outgoing} :
    Makes c.flush.2 calls c' → Makes c (.flush c.flush.1 :: calls) c'

/-- The calls for `bytes` once the channel has taken the first `p` of them, up to the call that
settles how the write ends. -/
inductive Emits (bytes : List UInt8) : Nat → List Outgoing → Except LinkError Unit → Prop
  | offered {p : Nat} {answer : Except IoError Nat} {calls : List Outgoing}
      {result : Except LinkError Unit} (hp : p < bytes.length)
      (hfits : taken answer ≤ bytes.length - p)
      (hnext : (Outgoing.write (bytes.drop p) answer).settles? = none)
      (h : Emits bytes (p + taken answer) calls result) :
      Emits bytes p (.write (bytes.drop p) answer :: calls) result
  | rejected {p : Nat} {answer : Except IoError Nat} {result : Except LinkError Unit}
      (hp : p < bytes.length)
      (hlast : (Outgoing.write (bytes.drop p) answer).settles? = some result) :
      Emits bytes p [.write (bytes.drop p) answer] result
  | flushing {p : Nat} {answer : Except IoError Unit} {calls : List Outgoing}
      {result : Except LinkError Unit} (hp : p = bytes.length)
      (hnext : (Outgoing.flush answer).settles? = none) (h : Emits bytes p calls result) :
      Emits bytes p (.flush answer :: calls) result
  | flushed {p : Nat} {answer : Except IoError Unit} {result : Except LinkError Unit}
      (hp : p = bytes.length) (hlast : (Outgoing.flush answer).settles? = some result) :
      Emits bytes p [.flush answer] result

namespace Makes
variable {c c' c'' : ByteChannel} {before after : List Outgoing}

theorem append (h : Makes c before c') (h' : Makes c' after c'') :
    Makes c (before ++ after) c'' := by
  induction h with
  | nothing c => exact h'
  | write bytes _ ih => exact .write bytes (ih h')
  | flush _ ih => exact .flush (ih h')

theorem split (h : Makes c (before ++ after) c') :
    ∃ between, Makes c before between ∧ Makes between after c' := by
  induction before generalizing c with
  | nil => exact ⟨c, .nothing c, h⟩
  | cons call before ih =>
    cases h with
    | write bytes h =>
      obtain ⟨between, hbefore, hafter⟩ := ih h
      exact ⟨between, .write bytes hbefore, hafter⟩
    | flush h =>
      obtain ⟨between, hbefore, hafter⟩ := ih h
      exact ⟨between, .flush hbefore, hafter⟩

end Makes

theorem taken_write_le (c : ByteChannel) (bytes : List UInt8) :
    taken (c.write bytes).1 ≤ bytes.length := by
  unfold write
  dsimp only [record]
  split
  · exact Nat.le_refl _
  · exact Nat.zero_le _
  · exact Nat.min_le_right ..

theorem Makes.accepted {c c' : ByteChannel} {calls : List Outgoing} (h : Makes c calls c') :
    c'.accepted = c.accepted ++ calls.flatMap Outgoing.piece := by
  induction h with
  | nothing c => simp
  | write bytes _ ih => rw [ih, accepted_write, List.append_assoc]; rfl
  | flush _ ih => rw [ih, accepted_flush]; rfl

namespace Emits
variable {bytes : List UInt8} {p : Nat} {before after calls : List Outgoing} {call : Outgoing}
  {result : Except LinkError Unit}

/-- What the first call adds to the bytes taken, and how it goes on from there. -/
theorem step (h : Emits bytes p (call :: after) result) :
    call.piece = (bytes.drop p).take call.taken ∧
      (after = [] ∨ Emits bytes (p + call.taken) after result) := by
  cases h with
  | offered _ _ _ h | flushing _ _ h => exact ⟨rfl, .inr h⟩
  | rejected | flushed => exact ⟨rfl, .inl rfl⟩

/-- The calls from any of them on. -/
theorem suffix (h : Emits bytes p (before ++ call :: after) result) :
    Emits bytes (p + position before) (call :: after) result := by
  induction before generalizing p with
  | nil => exact h
  | cons b before ih =>
    rw [position_cons, ← Nat.add_assoc]
    exact ih (h.step.2.resolve_left (by simp))

/-- At any time the channel has taken the bytes in front of the position, in their order. -/
theorem flatMap_piece (h : Emits bytes p (before ++ after) result) :
    before.flatMap Outgoing.piece = (bytes.drop p).take (position before) := by
  induction before generalizing p with
  | nil => simp [position]
  | cons b before ih =>
    obtain ⟨hpiece, hend | h⟩ := h.step
    · obtain ⟨rfl, -⟩ := List.append_eq_nil_iff.mp hend
      simpa [position] using hpiece
    · rw [List.flatMap_cons, ih h, hpiece, position_cons, List.take_add, List.drop_drop]

/-- The calls end with the one that settles the result. -/
theorem settled (h : Emits bytes p calls result) :
    ∃ before call, calls = before ++ [call] ∧ call.settles? = some result ∧
      ∀ b ∈ before, b.settles? = none := by
  induction h with
  | offered _ _ hnext _ ih | flushing _ hnext _ ih =>
    obtain ⟨before, call, rfl, hlast, hbefore⟩ := ih
    exact ⟨_ :: before, call, rfl, hlast, List.forall_mem_cons.mpr ⟨hnext, hbefore⟩⟩
  | rejected _ hlast | flushed _ hlast => exact ⟨[], _, rfl, hlast, by simp⟩

/-- A call that is interrupted is not the last one, and the next one asks for the same. -/
theorem again (h : Emits bytes p (call :: after) result) (hcall : call.isInterrupted = true) :
    ∃ call' after', after = call' :: after' ∧ call'.offered? = call.offered? := by
  have hunsettled := Outgoing.settles?_of_isInterrupted hcall
  cases h with
  | @offered _ answer _ _ hp _ _ h =>
    cases answer with
    | ok k => cases hcall
    | error e =>
      cases h with
      | offered | rejected => exact ⟨_, _, rfl, rfl⟩
      | flushing hend | flushed hend => exact absurd hend (Nat.ne_of_lt hp)
  | flushing hp _ h =>
    cases h with
    | offered hmore | rejected hmore => exact absurd hp (Nat.ne_of_lt hmore)
    | flushing | flushed => exact ⟨_, _, rfl, rfl⟩
  | rejected _ hlast | flushed _ hlast =>
    rw [hunsettled] at hlast
    cases hlast

/-- The write succeeds exactly if all bytes are taken and the channel is flushed then. -/
theorem ok_iff (h : Emits bytes p calls result) :
    result = .ok () ↔ p + position calls = bytes.length ∧
      ∃ before, calls = before ++ [.flush (.ok ())] := by
  obtain ⟨before, call, rfl, hlast, -⟩ := h.settled
  constructor
  · rintro rfl
    obtain rfl := Outgoing.settles?_eq_ok hlast
    refine ⟨?_, before, rfl⟩
    cases h.suffix with
    | flushing hend | flushed hend => simpa [position, Outgoing.taken] using hend
  · rintro ⟨-, before', hcalls⟩
    obtain ⟨-, hcall⟩ := List.append_inj' hcalls rfl
    obtain rfl := List.singleton_inj.mp hcall
    exact (Option.some.inj hlast).symm

/-- Writes that are interrupted may come before others. -/
theorem retryWrite {es : List IoError} (hes : ∀ e ∈ es, e.isInterrupted = true)
    (hp : p < bytes.length) (h : Emits bytes p calls result) :
    Emits bytes p (es.map (fun e => .write (bytes.drop p) (.error e)) ++ calls) result := by
  induction es with
  | nil => exact h
  | cons e es ih =>
    obtain ⟨he, hes⟩ := List.forall_mem_cons.mp hes
    exact .offered hp (Nat.zero_le _) (if_pos he) (ih hes)

theorem retryFlush {es : List IoError} (hes : ∀ e ∈ es, e.isInterrupted = true)
    (hp : p = bytes.length) (h : Emits bytes p calls result) :
    Emits bytes p (es.map (fun e => .flush (.error e)) ++ calls) result := by
  induction es with
  | nil => exact h
  | cons e es ih =>
    obtain ⟨he, hes⟩ := List.forall_mem_cons.mp hes
    exact .flushing hp (if_pos he) (ih hes)

end Emits

theorem taken_writeUninterrupted_le (c : ByteChannel) (bytes : List UInt8) :
    taken (c.writeUninterrupted bytes).1 ≤ bytes.length := by
  obtain ⟨calls, heq⟩ := c.writeUninterrupted_eq bytes
  rw [heq]
  exact taken_write_le _ bytes

/-- A call that is made again while it is interrupted, as often as the rank allows, comes to calls
that are interrupted and one that is not. -/
theorem makes_retried {α : Type} (call : ByteChannel → Except IoError α × ByteChannel)
    {retried : ByteChannel → Except IoError α × ByteChannel}
    {outgoing : Except IoError α → Outgoing} (rank : ByteChannel → Nat)
    (hmakes : ∀ {c calls c'}, Makes (call c).2 calls c' → Makes c (outgoing (call c).1 :: calls) c')
    (hdone : ∀ {c}, isInterruption (call c).1 = false → retried c = call c)
    (hagain : ∀ {c}, isInterruption (call c).1 = true →
      retried c = retried (call c).2 ∧ rank (call c).2 < rank c) (c : ByteChannel) :
    isInterruption (retried c).1 = false ∧
      ∃ es : List IoError, (∀ e ∈ es, e.isInterrupted = true) ∧
        c.Makes (es.map (fun e => outgoing (.error e)) ++ [outgoing (retried c).1])
          (retried c).2 := by
  induction hrank : rank c using Nat.strongRecOn generalizing c with
  | ind n ih =>
    cases hcall : isInterruption (call c).1 with
    | false =>
      rw [hdone hcall]
      exact ⟨hcall, [], by simp, hmakes (.nothing _)⟩
    | true =>
      obtain ⟨hsame, hless⟩ := hagain hcall
      obtain ⟨hended, es, hes, hmade⟩ := ih _ (hrank ▸ hless) (call c).2 rfl
      rw [hsame]
      have hfirst := hmakes hmade
      cases hanswer : (call c).1 with
      | ok k => simp [hanswer, isInterruption] at hcall
      | error e =>
        rw [hanswer] at hcall hfirst
        exact ⟨hended, e :: es, List.forall_mem_cons.mpr ⟨hcall, hes⟩, hfirst⟩

theorem makes_writeUninterrupted (c : ByteChannel) (bytes : List UInt8) :
    isInterruption (c.writeUninterrupted bytes).1 = false ∧
      ∃ es : List IoError, (∀ e ∈ es, e.isInterrupted = true) ∧
        c.Makes (es.map (fun e => .write bytes (.error e)) ++
          [.write bytes (c.writeUninterrupted bytes).1]) (c.writeUninterrupted bytes).2 := by
  refine makes_retried (fun c => c.write bytes) (fun c => c.writes.length) (.write bytes)
    writeUninterrupted_of_not (fun {c} h => ⟨writeUninterrupted_of_interruption h, ?_⟩) c
  rcases hwrites : c.writes with _ | ⟨answer, rest⟩
  · simp [write, record, hwrites, isInterruption] at h
  · cases answer <;> simp [write, record, hwrites]

theorem makes_flushUninterrupted (c : ByteChannel) :
    isInterruption c.flushUninterrupted.1 = false ∧
      ∃ es : List IoError, (∀ e ∈ es, e.isInterrupted = true) ∧
        c.Makes (es.map (fun e => .flush (.error e)) ++ [.flush c.flushUninterrupted.1])
          c.flushUninterrupted.2 := by
  refine makes_retried flush (fun c => c.flushes.length) .flush
    flushUninterrupted_of_not (fun {c} h => ⟨flushUninterrupted_of_interruption h, ?_⟩) c
  rcases hflushes : c.flushes with _ | ⟨answer, rest⟩
  · simp [flush, record, hflushes, isInterruption] at h
  · simp [flush, record, hflushes]

end ByteChannel

namespace Link.Stream
open ByteChannel

variable {m : Nat}

theorem writeAll_of_ne_nil {bytes : List UInt8} (hbytes : bytes ≠ []) (rounds : Nat)
    (c : ByteChannel) :
    writeAll (rounds + 1) bytes c =
      match c.writeUninterrupted bytes with
      | (.error e, c) => (.error (.io e), c)
      | (.ok 0, c) => (.error .closed, c)
      | (.ok taken, c) => writeAll rounds (bytes.drop taken) c := by
  cases bytes with
  | nil => exact absurd rfl hbytes
  | cons b bytes => rfl

/-- Offering bytes until all are taken either ends the write or leaves the rest of it to the calls
that come after. The induction is on the rounds, from any position on. -/
theorem emits_writeAll {bytes : List UInt8} {p : Nat} (hp : p ≤ bytes.length) {rounds : Nat}
    (hrounds : bytes.length - p ≤ rounds) (c : ByteChannel) :
    let x := writeAll rounds (bytes.drop p) c
    (∀ e, x.1 = .error e → ∃ calls, c.Makes calls x.2 ∧ Emits bytes p calls (.error e)) ∧
      (x.1 = .ok () → ∀ calls' result c', x.2.Makes calls' c' →
        Emits bytes bytes.length calls' result →
          ∃ calls, c.Makes calls c' ∧ Emits bytes p calls result) := by
  induction rounds generalizing p c with
  | zero =>
    have hend : p = bytes.length := by omega
    exact ⟨(fun _ he => by cases he), fun _ calls' _ _ hmade h => ⟨calls', hmade, hend ▸ h⟩⟩
  | succ rounds ih =>
    rcases Nat.lt_or_eq_of_le hp with hmore | hend
    · have hne : bytes.drop p ≠ [] := fun h => Nat.not_le_of_lt hmore (List.drop_eq_nil_iff.mp h)
      obtain ⟨hdone, es, hes, hmade⟩ := c.makes_writeUninterrupted (bytes.drop p)
      have hfits := c.taken_writeUninterrupted_le (bytes.drop p)
      rw [writeAll_of_ne_nil hne]
      rcases hwrite : c.writeUninterrupted (bytes.drop p) with ⟨answer, c₁⟩
      rw [hwrite] at hdone hmade hfits
      have hrejected {e : LinkError}
          (hlast : (Outgoing.write (bytes.drop p) answer).settles? = some (.error e)) :
          ∃ calls, c.Makes calls c₁ ∧ Emits bytes p calls (.error e) :=
        ⟨_, hmade, .retryWrite hes hmore (.rejected hmore hlast)⟩
      cases answer with
      | error e =>
        have hfailed : e.isInterrupted = false := hdone
        have hlast := hrejected (e := .io e) (by simp [Outgoing.settles?, hfailed])
        exact ⟨fun _ he => Except.error.inj he ▸ hlast, fun hok => by cases hok⟩
      | ok k =>
        cases k with
        | zero =>
          exact ⟨fun _ he => Except.error.inj he ▸ hrejected rfl, fun hok => by cases hok⟩
        | succ k =>
          rw [List.length_drop] at hfits
          have hfits' : k + 1 ≤ bytes.length - p := hfits
          have hstep {calls : List Outgoing} {result : Except LinkError Unit} {c' : ByteChannel}
              (hmade' : c₁.Makes calls c') (h : Emits bytes (p + (k + 1)) calls result) :
              ∃ calls, c.Makes calls c' ∧ Emits bytes p calls result := by
            refine ⟨_, hmade.append hmade', ?_⟩
            rw [List.append_assoc]
            exact .retryWrite hes hmore (.offered hmore hfits' rfl h)
          obtain ⟨hfailed, htaken⟩ := ih (p := p + (k + 1)) (by omega) (by omega) c₁
          rw [← List.drop_drop] at hfailed htaken
          refine ⟨fun e he => ?_, fun hok calls' result c' hmade' h => ?_⟩
          · obtain ⟨_, hmade', h⟩ := hfailed e he
            exact hstep hmade' h
          · obtain ⟨_, hmade', h⟩ := htaken hok calls' result c' hmade' h
            exact hstep hmade' h
    · rw [List.drop_eq_nil_of_le (Nat.le_of_eq hend.symm), writeAll]
      exact ⟨(fun _ he => by cases he), fun _ calls' _ _ hmade h => ⟨calls', hmade, hend ▸ h⟩⟩

theorem emits_write (s : Stream m) (f : Frame m) :
    ∃ calls, s.channel.Makes calls (s.write f).2.channel ∧ Emits f.bytes 0 calls (s.write f).1 := by
  have hrounds : f.bytes.length - 0 ≤ f.bytes.length := Nat.sub_le ..
  obtain ⟨hfailed, htaken⟩ := emits_writeAll (Nat.zero_le _) hrounds s.channel
  rw [List.drop_zero] at hfailed htaken
  unfold write
  rcases hwrite : writeAll f.bytes.length f.bytes s.channel with ⟨e | _, c⟩
  · rw [hwrite] at hfailed
    exact hfailed e rfl
  · rw [hwrite] at htaken
    obtain ⟨hdone, es, hes, hmade⟩ := c.makes_flushUninterrupted
    dsimp only
    rcases hflush : c.flushUninterrupted with ⟨e | _, c'⟩
    · rw [hflush] at hdone hmade
      have hfailed : e.isInterrupted = false := hdone
      exact htaken rfl _ _ _ hmade
        (.retryFlush hes rfl (.flushed rfl (by simp [Outgoing.settles?, hfailed])))
    · rw [hflush] at hmade
      exact htaken rfl _ _ _ hmade (.retryFlush hes rfl (.flushed rfl rfl))

/-- What writing `bytes` comes to: the calls that are made on the channel, with its answers, and the
result. -/
structure Emission (bytes : List UInt8) (c : ByteChannel) (calls : List Outgoing)
    (result : Except LinkError Unit) (c' : ByteChannel) : Prop where
  accepted : ∀ before after, calls = before ++ after → ∃ between, c.Makes before between ∧
    between.Makes after c' ∧ between.accepted = c.accepted ++ bytes.take (position before)
  offered : ∀ before offered answer after, calls = before ++ .write offered answer :: after →
    offered = bytes.drop (position before) ∧ offered ≠ []
  flushed : ∀ before answer after, calls = before ++ .flush answer :: after →
    position before = bytes.length
  again : ∀ before call after, calls = before ++ call :: after → call.isInterrupted = true →
    ∃ call' after', after = call' :: after' ∧ call'.offered? = call.offered?
  settled : ∃ before call, calls = before ++ [call] ∧ call.settles? = some result ∧
    ∀ b ∈ before, b.settles? = none
  uninterrupted : ∀ e, result = .error (.io e) → e.isInterrupted = false
  ok_iff : result = .ok () ↔ position calls = bytes.length ∧
    ∃ before, calls = before ++ [.flush (.ok ())]

/-- Whatever the channel answers, a write offers the bytes of its frame in order and each of them
until it is taken, flushes once all are, and goes on until a call settles how it ends. -/
theorem emits_in_order (s : Stream m) (f : Frame m) :
    ∃ calls, Emission f.bytes s.channel calls (s.write f).1 (s.write f).2.channel := by
  obtain ⟨calls, hmade, h⟩ := s.emits_write f
  have hsuffix {before after : List Outgoing} {call : Outgoing}
      (hcalls : calls = before ++ call :: after) :
      Emits f.bytes (position before) (call :: after) (s.write f).1 := by
    rw [← Nat.zero_add (position before)]
    exact (hcalls ▸ h).suffix
  refine ⟨calls, ?_, ?_, ?_, fun before call after hcalls => (hsuffix hcalls).again, h.settled, ?_,
    by simpa using h.ok_iff⟩
  · rintro before after rfl
    obtain ⟨between, hbefore, hafter⟩ := hmade.split
    refine ⟨between, hbefore, hafter, ?_⟩
    rw [hbefore.accepted, h.flatMap_piece, List.drop_zero]
  · intro before offered answer after hcalls
    have hmore {p : Nat} (hp : p < f.bytes.length) : f.bytes.drop p ≠ [] := fun h =>
      Nat.not_le_of_lt hp (List.drop_eq_nil_iff.mp h)
    cases hsuffix hcalls with
    | offered hp | rejected hp => exact ⟨rfl, hmore hp⟩
  · intro before answer after hcalls
    cases hsuffix hcalls with
    | flushing hp | flushed hp => exact hp
  · intro e he
    obtain ⟨before, call, -, hcall, -⟩ := h.settled
    exact Outgoing.not_interrupted_of_settles? (he ▸ hcall)

/-- The third write offers again what the second, which is interrupted, has offered. -/
example :
    let channel : ByteChannel :=
      { writes := [.ok 2, .error (.system 4), .ok 1], flushes := [.error (.system 4)] }
    let written := write { channel } (⟨6, 0, 0, #v[3, 4]⟩ : Frame 2)
    written.1.isOk = true ∧ written.2.channel.accepted = [6, 0, 0, 3, 4] ∧
      written.2.channel.calls = [.write 5, .write 3, .write 3, .write 2, .flush, .flush] := by
  decide +kernel

end Link.Stream

end AltBit
