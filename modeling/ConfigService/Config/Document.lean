import ConfigService.Config.Basic
import ConfigService.Json.Scalar
import ConfigService.Payload.Lower
/-!
# Document — configurations and updates as JSON

A document names the fields, the time of the last update last of all.  Its reader takes an object or a list of the
values.  A configuration needs every field but the time and passes over members it does not know; an update needs none,
takes `null` for absent and refuses what it does not know.
-/
namespace ConfigService

open Json

def Kind.read : (k : Kind) → Text → Taken k.Carrier
  | .text => readString
  | .count => readCount
  | .flag => readBool

/-- A choice of values with one of them replaced. -/
def setField {V : Field → Type} (values : (f : Field) → Option (V f)) (f : Field) (v : V f) :
    (g : Field) → Option (V g) :=
  fun g => if h : f = g then some (h ▸ v) else values g

def Kind.payload : (k : Kind) → k.Carrier → Payload
  | .text => Payload.string
  | .count => fun (n : UInt64) => Payload.integer n.toNat
  | .flag => Payload.bool

/-- A value that may be absent as it is written. -/
def optionalPayload {α : Type} (payload : α → Payload) : Option α → Payload
  | none => .none
  | some a => .some (payload a)

namespace Config

/-- What has been read of a configuration. -/
structure Draft where
  value : (f : Field) → Option f.Value
  updatedAt : Option (Option Timestamp)

def updatedAtName : String := "updated_at"

/-- A field of a configuration as its document holds it. -/
def fieldSlot (f : Field) : Slot Draft where
  name := f.name
  isFilled d := (d.value f).isSome
  fill d t := (plainly f.kind.read t).map fun (v, rest) => ({ d with value := setField d.value f v }, rest)
  optional := false

def updatedAtSlot : Slot Draft where
  name := updatedAtName
  isFilled d := d.updatedAt.isSome
  fill d t := (readOptional readTimestamp t).map fun (v, rest) => ({ d with updatedAt := some v }, rest)
  optional := true

/-- The document of a configuration. -/
def shape : Shape Draft where
  title := "struct ExplorerConfig"
  slots := Field.all.map fieldSlot ++ [updatedAtSlot]
  empty := ⟨fun _ => none, none⟩
  strict := false

/-- The configuration of a complete draft. -/
def ofDraft (d : Draft) : Config := ⟨fun f => (d.value f).getD f.standard, d.updatedAt.getD none⟩

/-- The configuration a text spells. -/
def read (t : Text) : Except Fault Config := (readWholeText (readRecord shape) t).map ofDraft

def payload (c : Config) : Payload :=
  .record "ExplorerConfig"
    (Field.all.map (fun f => (f.name, f.kind.payload (c.value f))) ++
      [(updatedAtName, optionalPayload .timestamp c.updatedAt)])

def encode (sortKeys : Bool) (c : Config) : Except EncodeError String := c.payload.encode sortKeys

end Config

namespace Update

structure Draft where
  value : (f : Field) → Option (Option f.Value)

/-- A field of an update as its document holds it. -/
def fieldSlot (f : Field) : Slot Draft where
  name := f.name
  isFilled d := (d.value f).isSome
  fill d t :=
    (readOptional (plainly f.kind.read) t).map fun (v, rest) =>
      (⟨setField (V := fun g => Option g.Value) d.value f v⟩, rest)
  optional := true

/-- The document of an update. -/
def shape : Shape Draft where
  title := "struct ExplorerConfigUpdate"
  slots := Field.all.map fieldSlot
  empty := ⟨fun _ => none⟩
  strict := true

def ofDraft (d : Draft) : Update := ⟨fun f => (d.value f).getD none⟩

/-- The update a text spells. -/
def read (t : Text) : Except Fault Update := (readWholeText (readRecord shape) t).map ofDraft

def payload (u : Update) : Payload :=
  .record "ExplorerConfigUpdate" (Field.all.map fun f => (f.name, optionalPayload f.kind.payload (u.value f)))

def encode (sortKeys : Bool) (u : Update) : Except EncodeError String := u.payload.encode sortKeys

end Update

end ConfigService
