import ConfigService.Store.Call
/-!
# Traffic — calls that run at the same time

Any number of calls work on one store.  What happens is a list of events: a call arrives, a call makes its next step, or
the cache loses its copy; between any two steps of one call anything may happen to the others.  Along the way it is noted
in which order the calls took the lock and in which order the updates were saved.
-/
namespace ConfigService

/-- Calls under way, and what they share. -/
structure Traffic where
  shared : Shared
  /-- The calls in the order in which they arrived; a call is named by its place here. -/
  calls : List Call
  /-- The calls that have taken the lock, in that order. -/
  entered : List Nat
  /-- The calls that have saved a configuration, in that order. -/
  saved : List Nat

inductive Event
  | arrive (task : Task)
  | move (call : Nat)
  | forget

namespace Traffic

def start (s : Shared) : Traffic := ⟨s, [], [], []⟩

/-- The calls that have taken the lock once a call has left a phase. -/
def enteredAfter (t : Traffic) (call : Nat) : Phase → List Nat
  | .enter => t.entered ++ [call]
  | _ => t.entered

/-- The calls that have saved once a call has gone from one phase to another. -/
def savedAfter (t : Traffic) (call : Nat) : Phase → Phase → List Nat
  | .save _, .fill _ => t.saved ++ [call]
  | _, _ => t.saved

def move? (t : Traffic) (call : Nat) : Option Traffic :=
  match t.calls[call]? with
  | none => none
  | some c =>
    match Call.step? c.task c.phase t.shared with
    | none => none
    | some (phase, shared) =>
      some ⟨shared, t.calls.set call ⟨c.task, phase⟩, t.enteredAfter call c.phase, t.savedAfter call c.phase phase⟩

def step? (t : Traffic) : Event → Option Traffic
  | .arrive task => some { t with calls := t.calls ++ [task.start] }
  | .move call => t.move? call
  | .forget => some { t with shared := t.shared.forget }

def run? (t : Traffic) : List Event → Option Traffic
  | [] => some t
  | e :: es =>
    match t.step? e with
    | none => none
    | some t => t.run? es

/-- The update that a call is for. -/
def update? (t : Traffic) (call : Nat) : Option (Update × Timestamp) :=
  match t.calls[call]? with
  | some ⟨.update u now, _⟩ => some (u, now)
  | _ => none

/-- A configuration after the updates of some calls, one after another. -/
def replay (t : Traffic) (order : List Nat) (c : Config) : Config :=
  order.foldl (fun c call => match t.update? call with | some (u, now) => c.apply u now | none => c) c

end Traffic

end ConfigService
