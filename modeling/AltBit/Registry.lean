import AltBit.Handler

/-!
Which handlers are registered. Registering a reliable handler opens its channel at even and
deregistering it closes the channel. Handlers can also be queued and registered together later; the
queue is kept, so the same batch can be registered again.
-/
namespace AltBit

structure Registry (σ : Type) where
  handlers : IdTable (Handler σ)
  channels : ChannelTable
  /-- Handlers to register when the queue is drained, in the state they start in. -/
  queue : List (Handler σ)

namespace Registry
variable {σ : Type}

def empty : Registry σ := ⟨.empty, .empty, []⟩

/-- Puts a handler in its place, whoever was there before. -/
def install (r : Registry σ) (h : Handler σ) : Traced (Registry σ) := do
  Traced.emit (.registered h.id h.reliable)
  pure { r with
    handlers := r.handlers.insert h.id h
    channels := if h.reliable then r.channels.start h.id else r.channels }

def register (r : Registry σ) (h : Handler σ) : Traced (Except DispatchError Unit × Registry σ) :=
  if r.handlers.contains h.id then do
    Traced.emit (.identifierTaken h.id)
    pure (.error (.duplicateIdentifier h.id), r)
  else do
    let r ← r.install h
    pure (.ok (), r)

/-- Removes a handler together with its channel, and returns it. -/
def deregister (r : Registry σ) (id : Identifier) : Traced (Option (Handler σ) × Registry σ) :=
  match r.handlers.get? id with
  | none => pure (none, r)
  | some h => do
    Traced.emit (.deregistered id)
    pure (some h, { r with handlers := r.handlers.erase id, channels := r.channels.erase id })

/-- The registered identifiers other than session control, ascending. -/
def listIds (r : Registry σ) : List Identifier := r.handlers.ids.filter fun id => !id.isReserved

def isReliable? (r : Registry σ) (id : Identifier) : Option Bool :=
  (r.handlers.get? id).map Handler.reliable

def channelState? (r : Registry σ) (id : Identifier) : Option ChannelState := r.channels.get? id

def resetChannels (r : Registry σ) : Registry σ :=
  let restart (t : ChannelTable) (id : Identifier) : ChannelTable :=
    if r.isReliable? id = some true then t.start id else t
  { r with channels := Identifier.all.foldl restart r.channels }

def enqueue (r : Registry σ) (h : Handler σ) : Registry σ := { r with queue := r.queue ++ [h] }

theorem foldl_enqueue (r : Registry σ) (hs : List (Handler σ)) :
    hs.foldl enqueue r = { r with queue := r.queue ++ hs } := by
  induction hs generalizing r with
  | nil => simp
  | cons h hs ih => simp [ih, enqueue]

/-- Registers handlers one after another up to the first whose identifier is taken. -/
def registerAll (r : Registry σ) :
    List (Handler σ) → Traced (Except DispatchError Unit × Registry σ)
  | [] => pure (.ok (), r)
  | h :: rest => do
    Traced.emit (.prepared h.id)
    match ← r.register h with
    | (.ok (), r) => r.registerAll rest
    | (.error e, r) => pure (.error e, r)

def drain (r : Registry σ) : Traced (Except DispatchError Unit × Registry σ) :=
  r.registerAll r.queue

end Registry

end AltBit
