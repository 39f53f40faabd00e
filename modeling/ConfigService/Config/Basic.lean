import ConfigService.Timestamp
/-!
# Config — the configuration and its updates

The configuration is a value for each of eight fields and the time of the last update.  A `Field` has a kind, and the
kind says of which type its values are, so that what holds for all fields is said once.  An update may carry a value for
any of them; applying it replaces the values it carries, leaves the others and sets the time.
-/
namespace ConfigService

/-- The kinds of values. -/
inductive Kind
  | text
  | count
  | flag
  deriving DecidableEq, Repr

/-- The values of a kind. -/
def Kind.Carrier : Kind → Type
  | text => String
  | count => UInt64
  | flag => Bool

instance : (k : Kind) → DecidableEq k.Carrier
  | .text => inferInstanceAs (DecidableEq String)
  | .count => inferInstanceAs (DecidableEq UInt64)
  | .flag => inferInstanceAs (DecidableEq Bool)

/-- The fields that an update can change. -/
inductive Field
  | defaultProject
  | defaultDataset
  | defaultTable
  | analyticsKey
  | cacheDuration
  | restrictView
  | restrictSave
  | restrictQuery
  deriving DecidableEq, Repr

namespace Field

/-- All fields, in the order in which documents list them. -/
def all : List Field :=
  [defaultProject, defaultDataset, defaultTable, analyticsKey, cacheDuration, restrictView, restrictSave, restrictQuery]

theorem mem_all (f : Field) : f ∈ all := by cases f <;> decide

/-- The name of a field in documents and, in capitals, in settings. -/
def name : Field → String
  | defaultProject => "default_project"
  | defaultDataset => "default_dataset"
  | defaultTable => "default_table"
  | analyticsKey => "analytics_key"
  | cacheDuration => "cache_duration"
  | restrictView => "restrict_view_to_admin"
  | restrictSave => "restrict_save_to_admin"
  | restrictQuery => "restrict_query_to_admin"

/-- The kind of a field. -/
def kind : Field → Kind
  | defaultProject | defaultDataset | defaultTable | analyticsKey => .text
  | cacheDuration => .count
  | restrictView | restrictSave | restrictQuery => .flag

/-- The values of a field. -/
abbrev Value (f : Field) : Type := f.kind.Carrier

/-- The value of a field nobody has set. -/
def standard : (f : Field) → f.Value
  | defaultProject => ("" : String)
  | defaultDataset => ("samples_mart" : String)
  | defaultTable => ("results" : String)
  | analyticsKey => ("" : String)
  | cacheDuration => (1800 : UInt64)
  | restrictView => false
  | restrictSave => false
  | restrictQuery => false

end Field

/-- A configuration. -/
structure Config where
  value : (f : Field) → f.Value
  updatedAt : Option Timestamp

/-- An update: the values to be replaced. -/
structure Update where
  value : (f : Field) → Option f.Value

namespace Config

@[ext] theorem ext {a b : Config} (hv : ∀ f, a.value f = b.value f) (ht : a.updatedAt = b.updatedAt) : a = b := by
  cases a
  cases b
  cases funext hv
  cases ht
  rfl

instance : DecidableEq Config := fun a b =>
  if h : (∀ f ∈ Field.all, a.value f = b.value f) ∧ a.updatedAt = b.updatedAt then
    isTrue (ext (fun f => h.1 f (Field.mem_all f)) h.2)
  else isFalse fun e => h (e ▸ ⟨fun _ _ => rfl, rfl⟩)

/-- The configuration nobody has changed. -/
def standard : Config := ⟨Field.standard, none⟩

/-- A configuration after an update at a time. -/
def apply (c : Config) (u : Update) (stamp : Timestamp) : Config :=
  ⟨fun f => (u.value f).getD (c.value f), some stamp⟩

end Config

namespace Update

@[ext] theorem ext {a b : Update} (h : ∀ f, a.value f = b.value f) : a = b := by
  cases a
  cases b
  cases funext h
  rfl

/-- The update that changes no field. -/
def empty : Update := ⟨fun _ => none⟩

/-- The cache duration an update carries. -/
def cacheDuration? (u : Update) : Option UInt64 := u.value .cacheDuration

/-- An update must not set the cache duration to zero. -/
def isValid (u : Update) : Bool := u.cacheDuration? != some 0

end Update

end ConfigService
