import ConfigService.Store.Traffic
/-!
# Course — calls over a repository that does as it likes

What keeps the configuration need not keep it well: it may fail now and work again later, and others may change what it
holds.  So in a course of happenings the repository may turn into any other at any time, and every loading and every saving
may be answered in any way (`Repository.exists_load_eq`, `Repository.exists_save_eq`).  A call in the phase `load` is
loading; its step out of that phase is where the answer comes, and until then the others move.

Along the way it is noted when a reader begins to load, when it is given a configuration, and when one is cached.
-/
namespace ConfigService

inductive Happening
  | event (e : Event)
  /-- The repository turns into another one. -/
  | turn (r : Repository)

/-- The cache does not lose its copy. -/
def Happening.keepsCopy : Happening → Bool
  | event .forget => false
  | _ => true

/-- What a call does that matters to readers. -/
inductive Deed
  /-- A reader begins to load. -/
  | asked
  /-- A reader has loaded, and with success. -/
  | loaded
  /-- A configuration is put into the cache, by a reader or by an update. -/
  | cached
  deriving DecidableEq, Repr

/-- What a call does in the step from one phase to another. -/
def Task.deed? : Task → Phase → Phase → Option Deed
  | .get, _, .load => some .asked
  | .get, .load, .fill _ => some .loaded
  | _, .fill _, _ => some .cached
  | _, _, _ => none

namespace Traffic

def meet? (t : Traffic) : Happening → Option Traffic
  | .event e => t.step? e
  | .turn r => some { t with shared := { t.shared with repository := r } }

/-- What is done in a happening. -/
def deed? (t : Traffic) : Happening → Option Deed
  | .event (.move call) =>
    match t.calls[call]? with
    | none => none
    | some c =>
      match Call.step? c.task c.phase t.shared with
      | none => none
      | some (phase, _) => c.task.deed? c.phase phase
  | _ => none

/-- A course of happenings: what is done in it, in this order, and the traffic after it. -/
def course? (t : Traffic) : List Happening → Option (List Deed × Traffic)
  | [] => some ([], t)
  | h :: hs =>
    match t.meet? h with
    | none => none
    | some next => (next.course? hs).map fun (deeds, last) => ((t.deed? h).toList ++ deeds, last)

end Traffic

end ConfigService
