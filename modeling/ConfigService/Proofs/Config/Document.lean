import ConfigService.Config.Document
import ConfigService.Proofs.Json.Record
import ConfigService.Proofs.Json.Scalar
/-!
# Document — a stored configuration is the one that was stored

Writing a configuration never fails (`Config.encode_eq`), and reading what was written gives it back (`Config.read_encode`)
whatever its values are and in whatever order its members were written.
-/
namespace ConfigService

open Json

/-! ## Values of a kind -/

namespace Kind

def json : (k : Kind) → k.Carrier → Json.Value
  | .text => Json.Value.string
  | .count => fun (n : UInt64) => .number (.ofInt n.toNat)
  | .flag => Json.Value.bool

theorem firstFault_payload (k : Kind) (a : k.Carrier) : (k.payload a).firstFault = none := by
  cases k <;> rfl

theorem lower_payload (k : Kind) (a : k.Carrier) : (k.payload a).lower = .ok (k.json a) := by
  cases k <;> rfl

theorem read_print (sortKeys : Bool) (k : Kind) (a : k.Carrier) : ReadsBack k.read ((k.json a).print sortKeys) a := by
  cases k with
  | text => exact fun rest _ => readString_literal a rest
  | count => exact readCount_print a
  | flag => exact fun rest _ => readBool_print sortKeys a rest

end Kind

/-! ## Fields of a record -/

namespace Payload

theorem firstFaultInFields_eq_none : ∀ {fields : List (String × Payload)}, (∀ f ∈ fields, f.2.firstFault = .none) →
    firstFaultInFields fields = .none
  | [], _ => rfl
  | (key, p) :: fs, h => by
    have hp := h (key, p) List.mem_cons_self
    rw [firstFaultInFields, hp, firstFaultInFields_eq_none fun f hf => h f (List.mem_cons_of_mem _ hf)]
    rfl

theorem lowerFields_cons {key : String} {p : Payload} {v : Json.Value} {fs : List (String × Payload)}
    {ms : List (String × Json.Value)} (hp : p.lower = .ok v) (hfs : lowerFields fs = .ok ms) :
    lowerFields ((key, p) :: fs) = .ok ((key, v) :: ms) := by
  rw [lowerFields, hp, hfs]
  rfl

/-- Fields that are told by what they belong to, before others. -/
theorem lowerFields_map_append {α : Type} {name : α → String} {p : α → Payload} {v : α → Json.Value}
    {fs : List (String × Payload)} {ms : List (String × Json.Value)} (h : ∀ a, (p a).lower = .ok (v a))
    (hfs : lowerFields fs = .ok ms) : ∀ as : List α,
      lowerFields (as.map (fun a => (name a, p a)) ++ fs) = .ok (as.map (fun a => (name a, v a)) ++ ms)
  | [] => hfs
  | a :: as => lowerFields_cons (h a) (lowerFields_map_append h hfs as)

/-- **A record is an object of its fields** if its name is no mark, each of its fields can be written and no two have one
name. -/
theorem toValue_record {name : String} {fields : List (String × Payload)} {ms : List (String × Json.Value)}
    (hmark : mark? name = .none) (hfault : ∀ f ∈ fields, f.2.firstFault = .none) (hlower : lowerFields fields = .ok ms)
    (hnodup : (ms.map Prod.fst).Nodup) : (record name fields).toValue = .ok (.object ms) := by
  have hfirst : (record name fields).firstFault = .none := firstFaultInFields_eq_none hfault
  rw [toValue, hfirst]
  simp only [lower, hmark, hlower, Except.map, collapse_eq_self hnodup]

end Payload

namespace Field

theorem name_inj {f g : Field} : f.name = g.name ↔ f = g := by
  constructor
  · intro h
    cases f <;> cases g <;> first | rfl | exact absurd h (by decide)
  · rintro rfl
    rfl

theorem name_ne_updatedAtName (f : Field) : f.name ≠ Config.updatedAtName := by
  cases f <;> decide

end Field

/-- Of the values that belong to the fields of some names, one more is there once its field has been set. -/
theorem setField_of_name {V : Field → Type} (value : (f : Field) → V f) (f : Field) (names : List String) :
    setField (fun g => if g.name ∈ names then some (value g) else none) f (value f) =
      fun g => if g.name ∈ f.name :: names then some (value g) else none := by
  funext g
  unfold setField
  by_cases h : f = g
  · subst h
    simp
  · have hne : ¬g.name = f.name := fun e => h (Field.name_inj.1 e.symm)
    simp [h, hne]

/-! ## Configurations -/

namespace Config

def timeJson : Option Timestamp → Json.Value
  | none => .null
  | some t => .string (toString t)

/-- The members of the object that a configuration is written as. -/
def members (c : Config) : List (String × Json.Value) :=
  Field.all.map (fun f => (f.name, f.kind.json (c.value f))) ++ [(updatedAtName, timeJson c.updatedAt)]

theorem map_fst_members (c : Config) : c.members.map Prod.fst = Field.all.map Field.name ++ [updatedAtName] := rfl

theorem nodup_members (c : Config) : (c.members.map Prod.fst).Nodup := by
  rw [map_fst_members]
  decide

theorem mem_members {c : Config} {m : String × Json.Value} (h : m ∈ c.members) :
    (∃ f : Field, m = (f.name, f.kind.json (c.value f))) ∨ m = (updatedAtName, timeJson c.updatedAt) := by
  rcases List.mem_append.1 h with h | h
  · obtain ⟨f, -, rfl⟩ := List.mem_map.1 h
    exact .inl ⟨f, rfl⟩
  · exact .inr (List.mem_singleton.1 h)

theorem field_mem_members (c : Config) (f : Field) : (f.name, f.kind.json (c.value f)) ∈ c.members :=
  List.mem_append_left _ (List.mem_map_of_mem (f := fun f => (f.name, f.kind.json (c.value f))) (Field.mem_all f))

theorem updatedAt_mem_members (c : Config) : (updatedAtName, timeJson c.updatedAt) ∈ c.members :=
  List.mem_append_right _ List.mem_cons_self

theorem toValue_payload (c : Config) : c.payload.toValue = .ok (.object c.members) := by
  refine Payload.toValue_record rfl (fun field hfield => ?_) ?_ c.nodup_members
  · rcases List.mem_append.1 hfield with h | h
    · obtain ⟨f, -, rfl⟩ := List.mem_map.1 h
      exact Kind.firstFault_payload _ _
    · rw [List.mem_singleton.1 h]
      cases c.updatedAt <;> rfl
  · refine Payload.lowerFields_map_append (fun f => Kind.lower_payload f.kind (c.value f)) ?_ Field.all
    cases c.updatedAt <;> rfl

def text (sortKeys : Bool) (c : Config) : String := (Json.Value.object c.members).encode sortKeys

/-- **Writing a configuration never fails.** -/
theorem encode_eq (sortKeys : Bool) (c : Config) : c.encode sortKeys = .ok (c.text sortKeys) := by
  rw [encode, Payload.encode, toValue_payload]
  rfl

/-! ## Reading it back -/

/-- What has been read of a configuration once its members with these names have been. -/
def draftOf (c : Config) (names : List String) : Draft where
  value f := if f.name ∈ names then some (c.value f) else none
  updatedAt := if updatedAtName ∈ names then some c.updatedAt else none

theorem draftOf_field (c : Config) (f : Field) (names : List String) :
    { c.draftOf names with value := setField (c.draftOf names).value f (c.value f) } = c.draftOf (f.name :: names) := by
  have hvalue : setField (c.draftOf names).value f (c.value f) = (c.draftOf (f.name :: names)).value :=
    setField_of_name c.value f names
  have htime : (c.draftOf names).updatedAt = (c.draftOf (f.name :: names)).updatedAt := by
    simp [draftOf, Ne.symm f.name_ne_updatedAtName]
  exact congrArg₂ Draft.mk hvalue htime

theorem draftOf_updatedAt (c : Config) (names : List String) :
    { c.draftOf names with updatedAt := some c.updatedAt } = c.draftOf (updatedAtName :: names) := by
  have hvalue : (c.draftOf names).value = (c.draftOf (updatedAtName :: names)).value := by
    funext f
    simp [draftOf, f.name_ne_updatedAtName]
  have htime : some c.updatedAt = (c.draftOf (updatedAtName :: names)).updatedAt := by
    simp [draftOf]
  exact congrArg₂ Draft.mk hvalue htime

theorem slot?_field (f : Field) : shape.slot? f.name = some (fieldSlot f) := by
  cases f <;> rfl

theorem slot?_updatedAt : shape.slot? updatedAtName = some updatedAtSlot := rfl

theorem readTime_print (sortKeys : Bool) (t : Option Timestamp) :
    FieldReadsBack (readOptional readTimestamp) ((timeJson t).print sortKeys) t := by
  cases t with
  | none => exact fun rest _ => readOptional_null _ rest
  | some t => exact readOptional_some rfl (by decide) (readTimestamp_literal t)

theorem tracks_member (sortKeys : Bool) {c : Config} {m : String × Json.Value} (h : m ∈ c.members) :
    Tracks shape c.draftOf (m.1, m.2.print sortKeys) := by
  rcases mem_members h with ⟨f, rfl⟩ | rfl
  · refine ⟨fieldSlot f, slot?_field f, fun names hnew => ⟨?_, fun rest hrest => ?_⟩⟩
    · simp [fieldSlot, draftOf, hnew]
    · have hread := plainly_readsBack (Kind.read_print sortKeys f.kind (c.value f)) rest hrest
      rw [← draftOf_field, fieldSlot]
      simp only [hread]
      rfl
  · refine ⟨updatedAtSlot, slot?_updatedAt, fun names hnew => ⟨?_, fun rest hrest => ?_⟩⟩
    · simp [updatedAtSlot, draftOf, hnew]
    · have hread := readTime_print sortKeys c.updatedAt rest hrest
      rw [← draftOf_updatedAt, updatedAtSlot]
      simp only [hread]
      rfl

/-- Nothing is missing once all members have been read. -/
theorem missing?_draftOf {c : Config} {names : List String} (h : ∀ m ∈ c.members, m.1 ∈ names) :
    shape.missing? (c.draftOf names) = none := by
  have hnone : shape.slots.find? (fun s => !s.optional && !s.isFilled (c.draftOf names)) = none := by
    refine List.find?_eq_none.2 fun slot hslot => ?_
    rcases List.mem_append.1 hslot with hslot | hslot
    · obtain ⟨f, -, rfl⟩ := List.mem_map.1 hslot
      simp [fieldSlot, draftOf, h _ (c.field_mem_members f)]
    · rw [List.mem_singleton.1 hslot]
      simp [updatedAtSlot]
  rw [Shape.missing?, hnone]
  rfl

theorem ofDraft_draftOf {c : Config} {names : List String} (h : ∀ m ∈ c.members, m.1 ∈ names) :
    ofDraft (c.draftOf names) = c := by
  have hfield (f : Field) : f.name ∈ names := h _ (c.field_mem_members f)
  have htime : updatedAtName ∈ names := h _ c.updatedAt_mem_members
  refine ext (fun f => ?_) ?_
  · simp [ofDraft, draftOf, hfield f]
  · simp [ofDraft, draftOf, htime]

/-- **What is read from the text of a configuration is the configuration.** -/
theorem read_text (sortKeys : Bool) (c : Config) : Config.read (Text.ofString (c.text sortKeys)) = .ok c := by
  have hempty : c.draftOf [] = shape.empty := by
    simp [draftOf, shape]
  obtain ⟨names, hnames, hread⟩ := readRecord_print sortKeys hempty c.nodup_members (fun m hm => tracks_member sortKeys hm)
    fun names h => missing?_draftOf h
  rw [Config.read, text, Json.Value.encode_eq, Text.ofString_ofList, hread]
  exact congrArg Except.ok (ofDraft_draftOf hnames)

end Config

/-- The update of the cache duration and nothing else. -/
def Update.ofCacheDuration (n : UInt64) : Update := ⟨setField empty.value .cacheDuration n⟩

end ConfigService
