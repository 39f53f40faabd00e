import Mathlib.Data.List.Nodup
import ConfigService.Proofs.Json.Tree
/-!
# Table — records are read in any order

What has been read of a record is a table that holds at most one value for each field.  One member of an object fills one
place of it, is passed over, or is a fault (`Table.take`), and so does one item of a list.  The reader does to the table
what the members do one after the other; and since each place is filled once, the table that comes out depends on what
stands under each name and not on the order (`Table.foldlM_take_eq_some_iff`).
-/
namespace ConfigService
namespace Json

/-- How the values of a record are held, and what spells them. -/
structure Table {σ : Type} (shape : Shape σ) where
  Index : Type
  Val : Index → Type
  /-- The fields in their declared order. -/
  order : List Index
  slot : Index → Slot σ
  get : σ → (i : Index) → Option (Val i)
  put : (i : Index) → Val i → σ → σ
  spelled? : (i : Index) → Tree → Option (Val i)
  slots_eq : shape.slots = order.map slot
  mem_order : ∀ i, i ∈ order
  nodup : (order.map fun i => (slot i).name).Nodup
  isFilled_eq : ∀ i d, (slot i).isFilled d = (get d i).isSome
  fill_reads : ∀ i d, ReadsTree ((slot i).fill d) fun t => (spelled? i t).map (put i · d)
  get_put_self : ∀ i v d, get (put i v d) i = some v
  get_put_of_ne : ∀ {i j} v d, i ≠ j → get (put i v d) j = get d j
  ext : ∀ {d e}, (∀ i, get d i = get e i) → d = e
  get_empty : ∀ i, get shape.empty i = none

namespace Table

variable {σ : Type} {shape : Shape σ} (T : Table shape)

def name (i : T.Index) : String := (T.slot i).name

/-- The field that a key names. -/
def index? (key : String) : Option T.Index := T.order.find? fun i => T.name i == key

theorem name_inj {i j : T.Index} (h : T.name i = T.name j) : i = j :=
  List.inj_on_of_nodup_map T.nodup (T.mem_order i) (T.mem_order j) h

theorem nodup_order : T.order.Nodup := List.Nodup.of_map _ T.nodup

theorem index?_eq_some_iff {key : String} {i : T.Index} : T.index? key = some i ↔ T.name i = key := by
  constructor
  · intro h
    exact beq_iff_eq.1 (List.find?_some (p := fun i => T.name i == key) h)
  · intro h
    cases hfind : T.index? key with
    | none =>
      have hnone := List.find?_eq_none.1 hfind i (T.mem_order i)
      exact absurd (beq_iff_eq.2 h) hnone
    | some j =>
      have hj : T.name j = key := beq_iff_eq.1 (List.find?_some (p := fun i => T.name i == key) hfind)
      rw [T.name_inj (hj.trans h.symm)]

theorem index?_eq_none_iff {key : String} : T.index? key = none ↔ ∀ i, T.name i ≠ key := by
  rw [Option.eq_none_iff_forall_ne_some]
  exact forall_congr' fun i => not_congr T.index?_eq_some_iff

theorem slot?_eq (key : String) : shape.slot? key = (T.index? key).map T.slot := by
  rw [Shape.slot?, T.slots_eq, List.find?_map]
  rfl

theorem names_eq : shape.names = T.order.map T.name := by
  rw [Shape.names, T.slots_eq, List.map_map]
  rfl

/-- What one member does to the table. -/
def take (d : σ) (e : String × Tree) : Option σ :=
  match T.index? e.1 with
  | none => if shape.strict then none else some d
  | some i => if (T.get d i).isSome then none else (T.spelled? i e.2).map (T.put i · d)

theorem take_name (d : σ) (i : T.Index) (t : Tree) :
    T.take d (T.name i, t) = if (T.get d i).isSome then none else (T.spelled? i t).map (T.put i · d) := by
  have hindex : T.index? (T.name i) = some i := T.index?_eq_some_iff.2 rfl
  simp only [take, hindex]

theorem take_unknown (d : σ) {key : String} (h : ∀ i, T.name i ≠ key) (t : Tree) :
    T.take d (key, t) = if shape.strict then none else some d := by
  simp only [take, T.index?_eq_none_iff.2 h]

/-- Nothing that the record needs is missing. -/
def Complete (d : σ) : Prop := ∀ i, (T.slot i).optional = false → (T.get d i).isSome

theorem missing?_eq_none_iff {d : σ} : shape.missing? d = none ↔ T.Complete d := by
  rw [Shape.missing?, T.slots_eq, Option.map_eq_none_iff, List.find?_eq_none]
  simp only [List.forall_mem_map, T.isFilled_eq]
  constructor
  · intro h i hi
    have := h i (T.mem_order i)
    rw [hi] at this
    simpa [Option.isSome_iff_ne_none] using this
  · intro h i _
    cases hi : (T.slot i).optional with
    | true => simp
    | false => simp [h i hi]

/-! ## What is filled -/

/-- What stands in a place of the table before and after some values have been given for it. -/
inductive Filled {V : Type} (spelled? : Tree → Option V) : Option V → List Tree → Option V → Prop
  | kept (v : Option V) : Filled spelled? v [] v
  | filled {t : Tree} {v : V} (h : spelled? t = some v) : Filled spelled? none [t] (some v)

theorem filled_nil_iff {V : Type} {spelled? : Tree → Option V} {v w : Option V} : Filled spelled? v [] w ↔ v = w := by
  constructor
  · intro h
    cases h
    rfl
  · rintro rfl
    exact .kept v

theorem filled_cons_iff {V : Type} {spelled? : Tree → Option V} {v w : Option V} {t : Tree} {ts : List Tree} :
    Filled spelled? v (t :: ts) w ↔ v = none ∧ ∃ u, spelled? t = some u ∧ Filled spelled? (some u) ts w := by
  constructor
  · intro h
    cases h with
    | filled h => exact ⟨rfl, _, h, .kept _⟩
  · rintro ⟨rfl, u, hu, h⟩
    cases h
    exact .filled hu

theorem filled_none_iff {V : Type} {spelled? : Tree → Option V} {w : Option V} {ts : List Tree} :
    Filled spelled? none ts w ↔ ts = [] ∧ w = none ∨ ∃ t v, ts = [t] ∧ spelled? t = some v ∧ w = some v := by
  constructor
  · intro h
    cases h with
    | kept => exact .inl ⟨rfl, rfl⟩
    | filled h => exact .inr ⟨_, _, rfl, h, rfl⟩
  · rintro (⟨rfl, rfl⟩ | ⟨t, v, rfl, h, rfl⟩)
    · exact .kept none
    · exact .filled h

theorem isSome_of_filled {V : Type} {spelled? : Tree → Option V} {v w : Option V} {ts : List Tree}
    (h : Filled spelled? v ts w) (hts : ts ≠ []) : w.isSome := by
  cases h with
  | kept => exact absurd rfl hts
  | filled => rfl

theorem valuesOf_cons_self (key : String) (t : Tree) (es : List (String × Tree)) :
    valuesOf key ((key, t) :: es) = t :: valuesOf key es := by
  rw [valuesOf, List.filter_cons, if_pos (beq_self_eq_true key)]
  rfl

theorem valuesOf_cons_of_ne {key : String} {e : String × Tree} (h : e.1 ≠ key) (es : List (String × Tree)) :
    valuesOf key (e :: es) = valuesOf key es := by
  rw [valuesOf, List.filter_cons, if_neg (mt beq_iff_eq.1 h)]
  rfl

/-- One member fills its own place and leaves the others as they are. -/
theorem exists_take_name_iff {i : T.Index} {t : Tree} {es : List (String × Tree)} {d₀ d : σ} :
    (∃ d₁, T.take d₀ (T.name i, t) = some d₁ ∧
        ∀ j, Filled (T.spelled? j) (T.get d₁ j) (valuesOf (T.name j) es) (T.get d j)) ↔
      ∀ j, Filled (T.spelled? j) (T.get d₀ j) (valuesOf (T.name j) ((T.name i, t) :: es)) (T.get d j) := by
  have hother {j : T.Index} (hij : i ≠ j) : valuesOf (T.name j) ((T.name i, t) :: es) = valuesOf (T.name j) es :=
    valuesOf_cons_of_ne (fun h => hij (T.name_inj h)) es
  rw [take_name]
  constructor
  · rintro ⟨d₁, htake, hfilled⟩ j
    rw [Option.ite_none_left_eq_some, Option.map_eq_some_iff, Option.not_isSome_iff_eq_none] at htake
    obtain ⟨hget, v, hv, rfl⟩ := htake
    have hj := hfilled j
    by_cases hij : i = j
    · subst hij
      rw [T.get_put_self] at hj
      rw [valuesOf_cons_self, filled_cons_iff]
      exact ⟨hget, v, hv, hj⟩
    · rwa [T.get_put_of_ne v d₀ hij, ← hother hij] at hj
  · intro hfilled
    have hi := hfilled i
    rw [valuesOf_cons_self, filled_cons_iff] at hi
    obtain ⟨hget, v, hv, hi⟩ := hi
    refine ⟨T.put i v d₀, by rw [hget, hv]; rfl, fun j => ?_⟩
    by_cases hij : i = j
    · subst hij
      rwa [T.get_put_self]
    · rw [T.get_put_of_ne v d₀ hij, ← hother hij]
      exact hfilled j

/-- **The members fill the table place by place**, in whatever order they stand. -/
theorem foldlM_take_eq_some_iff {entries : List (String × Tree)} : ∀ {d₀ d : σ},
    entries.foldlM T.take d₀ = some d ↔
      (shape.strict → ∀ e ∈ entries, ∃ i, T.name i = e.1) ∧
        ∀ i, Filled (T.spelled? i) (T.get d₀ i) (valuesOf (T.name i) entries) (T.get d i) := by
  induction entries with
  | nil =>
    intro d₀ d
    simp only [List.foldlM_nil, valuesOf, List.filter_nil, List.map_nil, filled_nil_iff]
    constructor
    · intro h
      cases h
      exact ⟨fun _ _ h => absurd h List.not_mem_nil, fun _ => rfl⟩
    · rintro ⟨-, h⟩
      exact congrArg some (T.ext h)
  | cons e es ih =>
    intro d₀ d
    obtain ⟨key, t⟩ := e
    rw [List.foldlM_cons, Option.bind_eq_bind, Option.bind_eq_some_iff]
    simp only [ih]
    by_cases hkey : ∃ i, T.name i = key
    · obtain ⟨i, rfl⟩ := hkey
      rw [← T.exists_take_name_iff]
      constructor
      · rintro ⟨d₁, htake, hknown, hfilled⟩
        exact ⟨fun hstrict => List.forall_mem_cons.2 ⟨⟨i, rfl⟩, hknown hstrict⟩, d₁, htake, hfilled⟩
      · rintro ⟨hknown, d₁, htake, hfilled⟩
        exact ⟨d₁, htake, fun hstrict => (List.forall_mem_cons.1 (hknown hstrict)).2, hfilled⟩
    · have hne : ∀ i, T.name i ≠ key := not_exists.1 hkey
      have hvalues (i : T.Index) : valuesOf (T.name i) ((key, t) :: es) = valuesOf (T.name i) es :=
        valuesOf_cons_of_ne (hne i).symm es
      simp only [T.take_unknown d₀ hne t, hvalues]
      constructor
      · rintro ⟨d₁, htake, -, hfilled⟩
        rw [Option.ite_none_left_eq_some] at htake
        cases htake.2
        exact ⟨fun hstrict => absurd hstrict htake.1, hfilled⟩
      · rintro ⟨hknown, hfilled⟩
        have hlax : ¬shape.strict := fun hstrict => hkey (hknown hstrict _ List.mem_cons_self)
        exact ⟨d₀, if_neg hlax, fun hstrict => absurd hstrict hlax, hfilled⟩

end Table

end Json
end ConfigService
