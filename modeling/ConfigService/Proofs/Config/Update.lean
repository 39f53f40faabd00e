import ConfigService.Proofs.Config.Document
/-!
# Update — a written update is read back, what it leaves out included

A document of an update names every field, and says `null` for one that the update does not carry (`Update.members`).  The
reader takes just that for absent, so an update is read back from its text (`Update.read_text`).
-/
namespace ConfigService

open Json

/-- A value that may be absent, as JSON. -/
def optionalJson {α : Type} (json : α → Json.Value) : Option α → Json.Value
  | none => .null
  | some a => json a

/-! ## Values of a kind, or none -/

namespace Kind

theorem firstFault_optionalPayload (k : Kind) (a : Option k.Carrier) : (optionalPayload k.payload a).firstFault = none := by
  cases a with
  | none => rfl
  | some a => exact firstFault_payload k a

theorem lower_optionalPayload (k : Kind) (a : Option k.Carrier) :
    (optionalPayload k.payload a).lower = .ok (optionalJson k.json a) := by
  cases a with
  | none => rfl
  | some a => exact lower_payload k a

/-- No value of a kind is written like an absent one. -/
theorem exists_print_eq_cons (sortKeys : Bool) (k : Kind) (a : k.Carrier) :
    ∃ c cs, (k.json a).print sortKeys = c :: cs ∧ isGap (.char c) = false ∧ c ≠ 'n' := by
  cases k with
  | text => exact ⟨'"', _, rfl, rfl, by decide⟩
  | count =>
    obtain ⟨c, cs, hcs, hc⟩ := startsNumber_text (proper_ofInt (UInt64.toNat a))
    refine ⟨c, cs, hcs, isGap_of_startsNumber hc, ?_⟩
    rintro rfl
    exact absurd hc (by decide)
  | flag =>
    cases a with
    | false => exact ⟨'f', _, rfl, rfl, by decide⟩
    | true => exact ⟨'t', _, rfl, rfl, by decide⟩

theorem json_ne_null (k : Kind) (a : k.Carrier) : k.json a ≠ .null := by
  cases k <;> exact fun h => nomatch h

theorem scalar_optionalJson (k : Kind) (a : Option k.Carrier) : (optionalJson k.json a).Scalar := by
  cases a with
  | none => exact ⟨.null, rfl, rfl, rfl, rfl⟩
  | some a =>
    cases k with
    | text => exact ⟨.string a, rfl, rfl, rfl, rfl⟩
    | count => exact ⟨.number (proper_ofInt _), rfl, rfl, rfl, rfl⟩
    | flag => exact ⟨.bool a, rfl, rfl, rfl, rfl⟩

theorem readOptional_print (sortKeys : Bool) (k : Kind) (a : Option k.Carrier) :
    FieldReadsBack (readOptional (plainly k.read)) ((optionalJson k.json a).print sortKeys) a := by
  cases a with
  | none => exact fun rest _ => readOptional_null _ rest
  | some a =>
    have hread := plainly_readsBack (read_print sortKeys k a)
    obtain ⟨c, cs, hcs, hgap, hnull⟩ := exists_print_eq_cons sortKeys k a
    rw [hcs] at hread
    rw [optionalJson, hcs]
    exact readOptional_some hgap hnull hread

end Kind

/-- A field's name is no mark. -/
theorem Field.name_ne_mark (f : Field) : f.name ≠ numberKey ∧ f.name ≠ quoteKey := by
  cases f <;> decide

namespace Update

/-! ## Writing it -/

/-- The members of the object that an update is written as. -/
def members (u : Update) : List (String × Json.Value) :=
  Field.all.map fun f => (f.name, optionalJson f.kind.json (u.value f))

theorem map_fst_members (u : Update) : u.members.map Prod.fst = Field.all.map Field.name := rfl

theorem nodup_members (u : Update) : (u.members.map Prod.fst).Nodup := by
  rw [map_fst_members]
  decide

theorem field_mem_members (u : Update) (f : Field) : (f.name, optionalJson f.kind.json (u.value f)) ∈ u.members :=
  List.mem_map_of_mem (f := fun f => (f.name, optionalJson f.kind.json (u.value f))) (Field.mem_all f)

theorem toValue_payload (u : Update) : u.payload.toValue = .ok (.object u.members) := by
  refine Payload.toValue_record rfl (fun field hfield => ?_) ?_ u.nodup_members
  · obtain ⟨f, -, rfl⟩ := List.mem_map.1 hfield
    exact Kind.firstFault_optionalPayload _ _
  · have hfields : Payload.lowerFields
        (Field.all.map (fun f => (f.name, optionalPayload f.kind.payload (u.value f))) ++ []) =
          .ok (u.members ++ []) :=
      Payload.lowerFields_map_append (fun f => Kind.lower_optionalPayload f.kind (u.value f)) rfl Field.all
    rwa [List.append_nil, List.append_nil] at hfields

def text (sortKeys : Bool) (u : Update) : String := (Json.Value.object u.members).encode sortKeys

/-- **Writing an update never fails.** -/
theorem encode_eq (sortKeys : Bool) (u : Update) : u.encode sortKeys = .ok (u.text sortKeys) := by
  rw [encode, Payload.encode, toValue_payload]
  rfl

/-! ## Reading it back -/

/-- What has been read of an update once its members with these names have been. -/
def draftOf (u : Update) (names : List String) : Draft where
  value f := if f.name ∈ names then some (u.value f) else none

theorem slot?_field (f : Field) : shape.slot? f.name = some (fieldSlot f) := by
  cases f <;> rfl

theorem tracks_member (sortKeys : Bool) {u : Update} {m : String × Json.Value} (h : m ∈ u.members) :
    Tracks shape u.draftOf (m.1, m.2.print sortKeys) := by
  obtain ⟨f, -, rfl⟩ := List.mem_map.1 h
  refine ⟨fieldSlot f, slot?_field f, fun names hnew => ⟨?_, fun rest hrest => ?_⟩⟩
  · simp [fieldSlot, draftOf, hnew]
  · have hread := Kind.readOptional_print sortKeys f.kind (u.value f) rest hrest
    have hdraft := setField_of_name u.value f names
    rw [fieldSlot]
    simp only [hread]
    exact congrArg (fun values => Except.ok (Draft.mk values, rest)) hdraft

/-- An update is complete whatever it leaves out. -/
theorem missing?_eq_none (d : Draft) : shape.missing? d = none := by
  have hnone : shape.slots.find? (fun s => !s.optional && !s.isFilled d) = none := by
    refine List.find?_eq_none.2 fun slot hslot => ?_
    obtain ⟨f, -, rfl⟩ := List.mem_map.1 hslot
    simp [fieldSlot]
  rw [Shape.missing?, hnone]
  rfl

theorem ofDraft_draftOf {u : Update} {names : List String} (h : ∀ m ∈ u.members, m.1 ∈ names) :
    ofDraft (u.draftOf names) = u := by
  refine ext fun f => ?_
  simp [ofDraft, draftOf, h _ (u.field_mem_members f)]

/-- **What is read from the text of an update is the update.** -/
theorem read_text (sortKeys : Bool) (u : Update) : Update.read (Text.ofString (u.text sortKeys)) = .ok u := by
  have hempty : u.draftOf [] = shape.empty := by
    simp [draftOf, shape]
  obtain ⟨names, hnames, hread⟩ := readRecord_print sortKeys hempty u.nodup_members
    (fun m hm => tracks_member sortKeys hm) fun names _ => missing?_eq_none (u.draftOf names)
  rw [Update.read, text, Json.Value.encode_eq, Text.ofString_ofList, hread]
  exact congrArg Except.ok (ofDraft_draftOf hnames)

/-! ## What its text says -/

/-- The object that is written for an update says `null` for the fields it leaves out, and for no others. -/
theorem findMember?_eq_null_iff (u : Update) (f : Field) :
    findMember? f.name u.members = some .null ↔ u.value f = none := by
  rw [findMember?_eq_some_iff u.nodup_members]
  constructor
  · intro h
    obtain ⟨g, -, hg⟩ := List.mem_map.1 h
    obtain ⟨hname, hnull⟩ := Prod.mk.inj hg
    cases Field.name_inj.1 hname
    cases hvalue : u.value f with
    | none => rfl
    | some a =>
      rw [hvalue] at hnull
      exact absurd hnull (Kind.json_ne_null f.kind a)
  · intro h
    have hmem := u.field_mem_members f
    rwa [h] at hmem

theorem scalar_of_mem_members {u : Update} {m : String × Json.Value} (h : m ∈ u.members) : m.2.Scalar := by
  obtain ⟨f, -, rfl⟩ := List.mem_map.1 h
  exact Kind.scalar_optionalJson f.kind (u.value f)

theorem unmarked_of_mem_members {u : Update} {m : String × Json.Value} (h : m ∈ u.members) :
    m.1 ≠ numberKey ∧ m.1 ≠ quoteKey := by
  obtain ⟨f, -, rfl⟩ := List.mem_map.1 h
  exact f.name_ne_mark

/-- **As JSON, the text of an update is an object** in which just the fields that the update leaves out are `null`. -/
theorem exists_read_members (sortKeys : Bool) (u : Update) :
    ∃ ms, Json.Value.read (Text.ofString (u.text sortKeys)) = .ok (.object ms) ∧
      ∀ f : Field, findMember? f.name ms = some .null ↔ u.value f = none := by
  obtain ⟨ms, hperm, hread⟩ := Json.Value.read_encode_scalars sortKeys u.nodup_members
    (fun m hm => scalar_of_mem_members hm) fun m hm => unmarked_of_mem_members hm
  have hnodup : (ms.map Prod.fst).Nodup := (hperm.map Prod.fst).nodup_iff.2 u.nodup_members
  refine ⟨ms, hread, fun f => ?_⟩
  rw [← findMember?_eq_null_iff, findMember?_eq_some_iff hnodup, findMember?_eq_some_iff u.nodup_members, hperm.mem_iff]

end Update

end ConfigService
