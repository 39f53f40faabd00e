import ConfigService.Config.Document
/-!
# Edit — updates one after another

An edit is a text that may spell an update, and the time at which it is to be made.  Edits are made in their order; one
whose text spells no update leaves the configuration as it is.
-/
namespace ConfigService

structure Edit where
  text : Text
  stamp : Timestamp

namespace Edit

/-- The update that an edit makes, if its text spells one. -/
def update? (e : Edit) : Option Update := (Update.read e.text).toOption

/-- The value that an edit carries for a field. -/
def carried? (e : Edit) (f : Field) : Option f.Value := e.update?.bind fun u => u.value f

/-- The time of an edit that makes an update. -/
def made? (e : Edit) : Option Timestamp := e.update?.map fun _ => e.stamp

end Edit

namespace Config

def edit (c : Config) (e : Edit) : Config :=
  match Update.read e.text with
  | .ok u => c.apply u e.stamp
  | .error _ => c

def editAll (c : Config) (edits : List Edit) : Config := edits.foldl edit c

end Config

namespace Update

/-- One update for two, of which the second has the last word. -/
def merge (u v : Update) : Update := ⟨fun f => (v.value f).or (u.value f)⟩

/-- One update for many, of which each has the last word over those before it. -/
def mergeAll (us : List Update) : Update := us.foldl merge empty

end Update

end ConfigService
