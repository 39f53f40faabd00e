import ConfigService.Payload.Lower
/-!
# Parts — what is inside a payload, and what may be wrong with it

A payload can be written if nothing inside it stands in the way, and what stands in the way can be said of one part at a
time: a float that is no number, data that fails, a key that is not shown as a string, a record under a mark that spells
nothing.  The parts are listed in the order in which they are written, a key before its value; the walks of `firstFault`
and `lower` are not looked at here.
-/
namespace ConfigService

namespace Payload

/-! ## Parts -/

/-- The payloads that a payload holds, in the order in which they are written. -/
def children : Payload → List Payload
  | some p => [p]
  | wrapped _ p => [p]
  | wrappedVariant _ _ p => [p]
  | sequence items => items
  | tuple items => items
  | namedTuple _ items => items
  | tupleVariant _ _ items => items
  | map entries => entries.flatMap fun e => [e.1, e.2]
  | record _ fields => fields.map Prod.snd
  | recordVariant _ _ fields => fields.map Prod.snd
  | _ => []

mutual

/-- A payload and everything inside it, in the order in which it is written. -/
def parts (p : Payload) : List Payload :=
  p ::
    match p with
    | some p => parts p
    | wrapped _ p => parts p
    | wrappedVariant _ _ p => parts p
    | sequence items => partsOfItems items
    | tuple items => partsOfItems items
    | namedTuple _ items => partsOfItems items
    | tupleVariant _ _ items => partsOfItems items
    | map entries => partsOfEntries entries
    | record _ fields => partsOfFields fields
    | recordVariant _ _ fields => partsOfFields fields
    | _ => []

def partsOfItems : List Payload → List Payload
  | [] => []
  | p :: ps => parts p ++ partsOfItems ps

def partsOfEntries : List (Payload × Payload) → List Payload
  | [] => []
  | (k, p) :: es => parts k ++ parts p ++ partsOfEntries es

def partsOfFields : List (String × Payload) → List Payload
  | [] => []
  | (_, p) :: fs => parts p ++ partsOfFields fs

end

/-! ### How parts are listed -/

theorem partsOfItems_eq (items : List Payload) : partsOfItems items = items.flatMap parts := by
  induction items with
  | nil => rfl
  | cons p ps ih => rw [partsOfItems, ih, List.flatMap_cons]

theorem partsOfEntries_eq (entries : List (Payload × Payload)) :
    partsOfEntries entries = (entries.flatMap fun e => [e.1, e.2]).flatMap parts := by
  induction entries with
  | nil => rfl
  | cons e es ih => simp [partsOfEntries, ih]

theorem partsOfFields_eq (fields : List (String × Payload)) :
    partsOfFields fields = (fields.map Prod.snd).flatMap parts := by
  induction fields with
  | nil => rfl
  | cons f fs ih => rw [partsOfFields, ih, List.map_cons, List.flatMap_cons]

/-- The parts of a payload are the payload and the parts of its children. -/
theorem parts_eq (p : Payload) : p.parts = p :: p.children.flatMap parts := by
  cases p <;> simp [parts, children, partsOfItems_eq, partsOfEntries_eq, partsOfFields_eq]

theorem key_mem_children {entries : List (Payload × Payload)} {e : Payload × Payload} (he : e ∈ entries) :
    e.1 ∈ (map entries).children := List.mem_flatMap.2 ⟨e, he, List.mem_cons_self⟩

theorem value_mem_children {entries : List (Payload × Payload)} {e : Payload × Payload} (he : e ∈ entries) :
    e.2 ∈ (map entries).children := List.mem_flatMap.2 ⟨e, he, List.mem_cons_of_mem _ List.mem_cons_self⟩

theorem mem_parts_iff {p q : Payload} : q ∈ p.parts ↔ q = p ∨ ∃ c ∈ p.children, q ∈ c.parts := by
  rw [parts_eq, List.mem_cons, List.mem_flatMap]

theorem mem_parts_self (p : Payload) : p ∈ p.parts := mem_parts_iff.2 (.inl rfl)

theorem mem_parts_of_child {p c q : Payload} (hc : c ∈ p.children) (hq : q ∈ c.parts) : q ∈ p.parts :=
  mem_parts_iff.2 (.inr ⟨c, hc, hq⟩)

theorem sizeOf_lt_of_mem_children {p q : Payload} (h : q ∈ p.children) : sizeOf q < sizeOf p := by
  cases p with
  | some p | wrapped _ p | wrappedVariant _ _ p =>
    cases List.mem_singleton.1 h
    simp only [some.sizeOf_spec, wrapped.sizeOf_spec, wrappedVariant.sizeOf_spec]
    omega
  | sequence items | tuple items | namedTuple _ items | tupleVariant _ _ items =>
    have : sizeOf q < sizeOf items := List.sizeOf_lt_of_mem h
    simp only [sequence.sizeOf_spec, tuple.sizeOf_spec, namedTuple.sizeOf_spec, tupleVariant.sizeOf_spec]
    omega
  | map entries =>
    obtain ⟨⟨k, v⟩, he, hq⟩ := List.mem_flatMap.1 h
    have := List.sizeOf_lt_of_mem he
    rw [Prod.mk.sizeOf_spec] at this
    rw [map.sizeOf_spec]
    obtain rfl | rfl : q = k ∨ q = v := (List.mem_cons.1 hq).imp_right List.mem_singleton.1
    all_goals omega
  | record _ fields | recordVariant _ _ fields =>
    obtain ⟨⟨k, v⟩, hf, rfl⟩ := List.mem_map.1 h
    have := List.sizeOf_lt_of_mem hf
    rw [Prod.mk.sizeOf_spec] at this
    simp only [record.sizeOf_spec, recordVariant.sizeOf_spec]
    omega
  | _ => cases h

/-- What holds of a payload if it holds of its children holds of every payload. -/
@[elab_as_elim]
theorem induct {P : Payload → Prop} (step : ∀ p, (∀ q ∈ p.children, P q) → P p) (p : Payload) : P p :=
  step p fun q _ => induct step q
termination_by sizeOf p
decreasing_by exact sizeOf_lt_of_mem_children ‹_›

def ownKeys : Payload → List Payload
  | map entries => entries.map Prod.fst
  | _ => []

/-- The keys of all maps in a payload. -/
def keys (p : Payload) : List Payload := p.parts.flatMap ownKeys

/-! ## What may be wrong with a part -/

/-- What is wrong with a payload itself: a float that is no number or not finite, or data that fails. -/
def ownFault? : Payload → Option EncodeError
  | float32 bits => (value32 bits).fault?
  | float64 bits => (value64 bits).fault?
  | fail message => Option.some (refusal message)
  | _ => Option.none

def Faultless (p : Payload) : Prop := ∀ q ∈ p.parts, q.ownFault? = Option.none

/-- A key is shown as a string if it is a string, a character, a truth value, an integer, a finite float or the label of
a variant, or wraps one of these. -/
def IsKey : Payload → Prop
  | string _ => True
  | char _ => True
  | bool _ => True
  | integer _ => True
  | wideInteger _ _ => True
  | float32 bits => (value32 bits).fault? = Option.none
  | float64 bits => (value64 bits).fault? = Option.none
  | label _ _ => True
  | timestamp _ => True
  | value (.string _) => True
  | value (.timestamp _) => True
  | value (.bool _) => True
  | wrapped _ p => IsKey p
  | _ => False

/-- The string that a payload is written as, if it is written as a string and is not wrapped. -/
def heldString? : Payload → Option String
  | string s => Option.some s
  | timestamp t => Option.some (toString t)
  | value (.string s) => Option.some s
  | value (.timestamp t) => Option.some (toString t)
  | _ => Option.none

/-- The fields of a record under a mark spell a value: there is a field, and every field has the mark's key and holds a
string that is read. -/
def Mark.Spelled (mark : Mark) (fields : List (String × Payload)) : Prop :=
  fields ≠ [] ∧ ∀ f ∈ fields, f.1 = mark.key ∧ ∃ s v, f.2.heldString? = Option.some s ∧ mark.read s = .ok v

/-- A payload of which nothing stands in the way of writing it. -/
structure Writable (p : Payload) : Prop where
  faultless : p.Faultless
  keys : ∀ k ∈ p.keys, k.IsKey
  spelled : ∀ name fields mark, record name fields ∈ p.parts → mark? name = Option.some mark → mark.Spelled fields

/-- Why a payload cannot be written. -/
inductive Unwritable (p : Payload) : EncodeError → Prop
  /-- A fault of a part counts before all else, and of these the first in the order of writing. -/
  | fault {e : EncodeError} (first : p.parts.findSome? ownFault? = Option.some e) : Unwritable p e
  | key {k : Payload} (faultless : p.Faultless) (mem : k ∈ p.keys) (unshown : ¬k.IsKey) : Unwritable p .badKey
  | spelling {name : String} {fields : List (String × Payload)} {mark : Mark} {e : EncodeError}
      (faultless : p.Faultless) (mem : record name fields ∈ p.parts)
      (marked : mark? name = Option.some mark) (report : markedValue mark fields = .error e) : Unwritable p e

end Payload

end ConfigService
