import InsectPortal.Portal

/-!
# Runs with several operations under way

A world is a portal together with the calls in flight and the history of what happened. Operations
may be started at any time, and a call in flight may be answered at any time and with any reply, so
the runs of a world are all the interleavings of turns.
-/
namespace InsectPortal

/-- What happened. Operations are numbered as they are started. -/
inductive Happening where
  | started (operation : Nat) (op : Operation)
  | called (operation : Nat) (call : Call)
  | answered (operation : Nat) (call : Call)
  | noted (operation : Nat) (note : Notification)
  | ended (operation : Nat) (outcome : Outcome)

structure World where
  portal : Portal
  /-- The calls that are not answered yet, with the operations that wait for them. -/
  inFlight : List (Nat × Pending)
  started : Nat
  history : List Happening

/-- What may happen next. A reply is given for whichever call its operation waits for. -/
inductive Event where
  | start (op : Operation)
  | reply (operation : Nat) (answer : (c : Call) → c.Reply)

namespace World

def initial (p : Portal) : World := ⟨p, [], 0, []⟩

def pending? (w : World) (operation : Nat) : Option Pending :=
  (w.inFlight.find? (·.1 = operation)).map (·.2)

def take (w : World) (operation : Nat) (t : Turn) : World :=
  match t.next with
  | .finished outcome =>
    { w with
      portal := t.portal
      history := w.history ++ t.notes.map (.noted operation) ++ [.ended operation outcome] }
  | .waiting pending =>
    { w with
      portal := t.portal
      inFlight := w.inFlight ++ [(operation, pending)]
      history := w.history ++ t.notes.map (.noted operation) ++ [.called operation pending.call] }

def start (w : World) (op : Operation) : World :=
  let history := w.history ++ [Happening.started w.started op]
  { w with started := w.started + 1, history }.take w.started (w.portal.begin op)

def reply (w : World) (operation : Nat) (answer : (c : Call) → c.Reply) : World :=
  match w.pending? operation with
  | none => w
  | some pending =>
    let inFlight := w.inFlight.filter (·.1 ≠ operation)
    let history := w.history ++ [Happening.answered operation pending.call]
    { w with inFlight, history }.take operation
      (w.portal.resume pending (answer pending.call))

def next (w : World) : Event → World
  | .start op => w.start op
  | .reply operation answer => w.reply operation answer

def Enabled (w : World) : Event → Prop
  | .start _ => True
  | .reply operation _ => (w.pending? operation).isSome

end World

inductive Reachable (p : Portal) : World → Prop where
  | initial : Reachable p (.initial p)
  | step {w : World} (e : Event) : Reachable p w → w.Enabled e → Reachable p (w.next e)

end InsectPortal
