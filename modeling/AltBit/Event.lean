import AltBit.Frame
import AltBit.Channel
import AltBit.Link.Error

/-!
What happens while frames are moved, as a list of events, and computations that record it. The value
of a traced computation does not depend on what was recorded on the way, so reasoning about values
can drop the record.
-/
namespace AltBit

inductive HandlerError where
  | unsupportedOperation (op : UInt8)
  | failed (reason : String)
  deriving DecidableEq, Repr

structure Credentials where
  pid : Nat
  uid : Nat
  deriving DecidableEq, Repr

inductive DispatchError where
  | duplicateIdentifier (id : Identifier)
  | unknownIdentifier (id : Identifier)
  | link (e : LinkError)
  | invalidSessionHandler (id : Identifier)
  deriving DecidableEq, Repr

inductive Event where
  | received (count buffered : Nat)
  | sessionKeepalive
  | sessionConnected
  | sessionDisconnected
  /-- A queued handler was made ready for registration. -/
  | prepared (id : Identifier)
  | identifierTaken (id : Identifier)
  | registered (id : Identifier) (reliable : Bool)
  | deregistered (id : Identifier)
  | invoked (id : Identifier) (payload : List UInt8)
  | handlerFailed (id : Identifier) (e : HandlerError)
  | duplicateSuppressed (id : Identifier) (seq ack : UInt8)
  | dispatched (id : Identifier) (seq ack : UInt8) (delivery : Delivery)
  | noHandler (id : Identifier)
  | readinessFailed (e : LinkError)
  | readFailed (e : LinkError)
  | replyFailed (id : Identifier) (e : LinkError)
  | unknownReplyFailed (id : Identifier) (e : LinkError)
  | linkReplaced
  | sent (id : Identifier) (seq : UInt8) (attempt : Nat)
  | acknowledged (id : Identifier) (seq : UInt8) (attempt : Nat)
  | retransmitting (id : Identifier) (seq : UInt8) (attempt : Nat)
  | unreliableSent (id : Identifier)
  | staleReply (id : Identifier) (seq ack : UInt8)
  | removingStaleSocket (path : String)
  | listening (path : String)
  | accepted (path : String)
  | connected (path : String)
  | removingSocket (path : String)
  | socketReplaced (path : String)
  | echoesRegistered (ids : List Identifier)
  | serving (path : String)
  | peerConnected (who : Credentials)
  | peerDisconnected
  | echoed (id : Identifier) (delivery : Delivery)
  | dispatchFailed (e : DispatchError)
  deriving DecidableEq, Repr

/-- The payload that the handler of `id` was given, if the event is its invocation. -/
def Event.invokedOn? (id : Identifier) : Event → Option (List UInt8)
  | invoked j payload => if j = id then some payload else none
  | _ => none

/-- The payloads that the handler of an identifier was given, oldest first. -/
def invocations (id : Identifier) (events : List Event) : List (List UInt8) :=
  events.filterMap (Event.invokedOn? id)

@[simp] theorem invocations_nil (id : Identifier) : invocations id [] = [] := rfl

@[simp] theorem invocations_append (id : Identifier) (a b : List Event) :
    invocations id (a ++ b) = invocations id a ++ invocations id b :=
  List.filterMap_append

@[simp] theorem invocations_cons (id : Identifier) (e : Event) (events : List Event) :
    invocations id (e :: events) = (e.invokedOn? id).toList ++ invocations id events := by
  cases h : e.invokedOn? id <;> simp [invocations, h]

/-- A value together with the events that led to it, oldest first. -/
structure Traced (α : Type) where
  val : α
  events : List Event

namespace Traced
variable {α β : Type}

def emit (e : Event) : Traced Unit := ⟨(), [e]⟩

instance : Monad Traced where
  pure a := ⟨a, []⟩
  bind x f := ⟨(f x.val).val, x.events ++ (f x.val).events⟩

@[simp] theorem val_pure (a : α) : (pure a : Traced α).val = a := rfl

@[simp] theorem events_pure (a : α) : (pure a : Traced α).events = [] := rfl

@[simp] theorem val_bind (x : Traced α) (f : α → Traced β) : (x >>= f).val = (f x.val).val := rfl

@[simp] theorem events_bind (x : Traced α) (f : α → Traced β) :
    (x >>= f).events = x.events ++ (f x.val).events := rfl

@[simp] theorem val_map (f : α → β) (x : Traced α) : (f <$> x).val = f x.val := rfl

@[simp] theorem events_map (f : α → β) (x : Traced α) : (f <$> x).events = x.events :=
  List.append_nil x.events

theorem bind_congr_val {x : Traced α} {f g : α → Traced β} (h : f x.val = g x.val) :
    x >>= f = x >>= g :=
  congrArg (fun y : Traced β => Traced.mk y.val (x.events ++ y.events)) h

instance : LawfulMonad Traced := LawfulMonad.mk' Traced
  (fun x => congrArg (Traced.mk x.val) (List.append_nil x.events))
  (fun _ _ => rfl)
  (fun x _ _ => congrArg (Traced.mk _) (List.append_assoc x.events _ _))

@[simp] theorem val_emit (e : Event) : (emit e).val = () := rfl

@[simp] theorem events_emit (e : Event) : (emit e).events = [e] := rfl

end Traced

end AltBit
