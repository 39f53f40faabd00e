import Mathlib.Data.List.Perm.Subperm
import ConfigService.Json.Printer
import ConfigService.Json.Spelling
import ConfigService.Proofs.Json.Lawful
/-!
# Order — members in the order of their keys

`Value.sorted` is a value with the members of every object, at any depth, in the order of their keys.  Writing with sorted
keys is plain writing of the sorted value (`print_true`), and on lawful values sorting takes away just what equality does
not look at: two of them are equal if and only if they are the same once sorted (`equal_iff_sorted_eq`).
-/
namespace ConfigService
namespace Json

/-! ## Entries -/

section Entries

variable {α β : Type} {es fs : List (String × α)}

theorem sortByKey_perm (es : List (String × α)) : (sortByKey es).Perm es := List.mergeSort_perm _ _

theorem mem_sortByKey {e : String × α} : e ∈ sortByKey es ↔ e ∈ es := (sortByKey_perm es).mem_iff

theorem pairwise_sortByKey (es : List (String × α)) : (sortByKey es).Pairwise fun a b => a.1 ≤ b.1 := by
  have htrans : ∀ a b c : String × α, decide (a.1 ≤ b.1) = true → decide (b.1 ≤ c.1) = true → decide (a.1 ≤ c.1) = true :=
    fun a b c hab hbc => decide_eq_true (String.le_trans (of_decide_eq_true hab) (of_decide_eq_true hbc))
  have htotal : ∀ a b : String × α, (decide (a.1 ≤ b.1) || decide (b.1 ≤ a.1)) = true := fun a b => by
    simpa using String.le_total a.1 b.1
  exact (List.pairwise_mergeSort htrans htotal es).imp fun h => of_decide_eq_true h

theorem nodup_sortByKey (h : (es.map Prod.fst).Nodup) : ((sortByKey es).map Prod.fst).Nodup :=
  ((sortByKey_perm es).map Prod.fst).nodup_iff.2 h

theorem eq_of_fst_eq (h : (es.map Prod.fst).Nodup) {a b : String × α} (ha : a ∈ es) (hb : b ∈ es) (hab : a.1 = b.1) :
    a = b := by
  induction es with
  | nil => cases ha
  | cons e es ih =>
    rw [List.map_cons, List.nodup_cons] at h
    rcases List.mem_cons.1 ha with hae | hae <;> rcases List.mem_cons.1 hb with hbe | hbe
    · rw [hae, hbe]
    · exact absurd (hae ▸ hab ▸ List.mem_map_of_mem hbe) h.1
    · exact absurd (hbe ▸ hab ▸ List.mem_map_of_mem hae) h.1
    · exact ih h.2 hae hbe

/-- Where keys come once, sorting forgets the order. -/
theorem sortByKey_eq_of_perm (h : es.Perm fs) (hn : (es.map Prod.fst).Nodup) : sortByKey es = sortByKey fs := by
  refine List.Perm.eq_of_pairwise (fun a b ha hb hab hba => ?_) (pairwise_sortByKey es) (pairwise_sortByKey fs)
    ((sortByKey_perm es).trans (h.trans (sortByKey_perm fs).symm))
  exact eq_of_fst_eq hn (mem_sortByKey.1 ha) (h.mem_iff.2 (mem_sortByKey.1 hb)) (String.le_antisymm hab hba)

theorem sortByKey_sortByKey (es : List (String × α)) : sortByKey (sortByKey es) = sortByKey es :=
  List.mergeSort_of_pairwise ((pairwise_sortByKey es).imp fun h => decide_eq_true h)

/-- Entries with their values replaced. -/
def mapValues (f : α → β) (es : List (String × α)) : List (String × β) := es.map fun e => (e.1, f e.2)

theorem map_fst_mapValues (f : α → β) (es : List (String × α)) : (mapValues f es).map Prod.fst = es.map Prod.fst := by
  rw [mapValues, List.map_map]
  rfl

theorem mem_mapValues {f : α → β} {m : String × β} : m ∈ mapValues f es ↔ ∃ e ∈ es, (e.1, f e.2) = m := List.mem_map

theorem mapValues_mapValues {γ : Type} (g : β → γ) (f : α → β) (es : List (String × α)) :
    mapValues g (mapValues f es) = mapValues (fun a => g (f a)) es := by
  rw [mapValues, mapValues, List.map_map]
  rfl

theorem mapValues_congr {f g : α → β} (h : ∀ e ∈ es, f e.2 = g e.2) : mapValues f es = mapValues g es :=
  List.map_congr_left fun e he => by rw [h e he]

/-- Sorting looks at the keys only. -/
theorem sortByKey_mapValues (f : α → β) (es : List (String × α)) :
    sortByKey (mapValues f es) = mapValues f (sortByKey es) := by
  unfold sortByKey mapValues
  exact (List.map_mergeSort (f := fun e : String × α => (e.1, f e.2)) fun a _ b _ => rfl).symm

theorem insertMember_mapValues (f : α → β) (key : String) (a : α) (es : List (String × α)) :
    insertMember key (f a) (mapValues f es) = mapValues f (insertMember key a es) := by
  induction es with
  | nil => rfl
  | cons e es ih =>
    obtain ⟨k, b⟩ := e
    by_cases hk : k = key
    · simp [mapValues, insertMember, hk]
    · simpa [mapValues, insertMember, hk] using ih

/-- So does collapsing. -/
theorem collapse_mapValues (f : α → β) (es : List (String × α)) :
    collapse (mapValues f es) = mapValues f (collapse es) := by
  have hfold : ∀ members : List (String × α),
      (mapValues f es).foldl (fun members e => insertMember e.1 e.2 members) (mapValues f members) =
        mapValues f (es.foldl (fun members e => insertMember e.1 e.2 members) members) := by
    induction es with
    | nil => exact fun _ => rfl
    | cons e es ih =>
      intro members
      rw [List.foldl_cons, ← ih, ← insertMember_mapValues]
      rfl
  exact hfold []

theorem findMember?_eq_some_iff (h : (es.map Prod.fst).Nodup) {k : String} {v : α} :
    findMember? k es = some v ↔ (k, v) ∈ es := by
  induction es with
  | nil => simp [findMember?]
  | cons e es ih =>
    obtain ⟨k', v'⟩ := e
    rw [List.map_cons, List.nodup_cons] at h
    rw [findMember?]
    by_cases hk : k' = k
    · subst hk
      rw [if_pos rfl]
      constructor
      · intro hv
        cases hv
        exact List.mem_cons_self
      · intro hm
        rcases List.mem_cons.1 hm with hm | hm
        · cases hm
          rfl
        · exact absurd (List.mem_map_of_mem hm) h.1
    · rw [if_neg hk, ih h.2]
      constructor
      · exact List.mem_cons_of_mem _
      · intro hm
        rcases List.mem_cons.1 hm with hm | hm
        · cases hm
          exact absurd rfl hk
        · exact hm

end Entries

/-! ## Induction over a value -/

namespace Value

/-- What holds of the leaves, and of a container if it holds of all values in it, holds of every value. -/
@[elab_as_elim]
theorem induct {P : Value → Prop} (null : P .null) (bool : ∀ b, P (.bool b)) (number : ∀ n, P (.number n))
    (string : ∀ s, P (.string s)) (timestamp : ∀ t, P (.timestamp t))
    (array : ∀ items, (∀ v ∈ items, P v) → P (.array items))
    (object : ∀ members, (∀ m ∈ members, P m.2) → P (.object members)) (v : Value) : P v :=
  @Value.rec P (fun items => ∀ v ∈ items, P v) (fun members => ∀ m ∈ members, P m.2) (fun m => P m.2)
    null bool number string timestamp array object
    (fun _ h => absurd h List.not_mem_nil) (fun _ _ hv hvs => List.forall_mem_cons.2 ⟨hv, hvs⟩)
    (fun _ h => absurd h List.not_mem_nil) (fun _ _ hm hms => List.forall_mem_cons.2 ⟨hm, hms⟩)
    (fun _ _ h => h) v

/-! ## Sorted values -/

mutual

/-- A value with the members of every object in the order of their keys. -/
def sorted : Value → Value
  | array items => .array (sortedItems items)
  | object members => .object (sortByKey (sortedMembers members))
  | null => .null
  | bool b => .bool b
  | number n => .number n
  | string s => .string s
  | timestamp t => .timestamp t

/-- The items of an array, each of them sorted. -/
def sortedItems : List Value → List Value
  | [] => []
  | v :: vs => v.sorted :: sortedItems vs

/-- The members of an object in their own order, the value of each of them sorted. -/
def sortedMembers : List (String × Value) → List (String × Value)
  | [] => []
  | (k, v) :: ms => (k, v.sorted) :: sortedMembers ms

end

theorem sortedItems_eq_map : ∀ items : List Value, sortedItems items = items.map sorted
  | [] => rfl
  | v :: vs => by rw [sortedItems, sortedItems_eq_map vs, List.map_cons]

theorem sortedMembers_eq_map (members : List (String × Value)) : sortedMembers members = mapValues sorted members := by
  induction members with
  | nil => rfl
  | cons m ms ih =>
    obtain ⟨k, v⟩ := m
    rw [sortedMembers, ih, mapValues, mapValues, List.map_cons]

@[simp] theorem sorted_array (items : List Value) : (array items).sorted = .array (items.map sorted) := by
  rw [sorted, sortedItems_eq_map]

@[simp] theorem sorted_object (members : List (String × Value)) :
    (object members).sorted = .object (sortByKey (mapValues sorted members)) := by
  rw [sorted, sortedMembers_eq_map]

@[simp] theorem spelled_array (items : List Value) : (array items).spelled = .array (items.map spelled) := by
  rw [spelled, spelledItems_eq_map]

@[simp] theorem spelled_object (members : List (String × Value)) :
    (object members).spelled = .object (mapValues spelled members) := by
  rw [spelled, spelledMembers_eq_map, mapValues]

theorem sorted_sorted (v : Value) : v.sorted.sorted = v.sorted := by
  induction v using induct with
  | array items ih =>
    simp only [sorted_array, List.map_map]
    exact congrArg array (List.map_congr_left ih)
  | object members ih =>
    rw [sorted_object, sorted_object, sortByKey_mapValues, sortByKey_sortByKey, ← sortByKey_mapValues,
      mapValues_mapValues, mapValues_congr ih]
  | _ => rfl

/-- Spelling the timestamps and sorting the members do not disturb each other. -/
theorem spelled_sorted (v : Value) : v.sorted.spelled = v.spelled.sorted := by
  induction v using induct with
  | array items ih =>
    simp only [sorted_array, spelled_array, List.map_map]
    exact congrArg array (List.map_congr_left ih)
  | object members ih =>
    rw [sorted_object, spelled_object, spelled_object, sorted_object, ← sortByKey_mapValues, mapValues_mapValues,
      mapValues_mapValues, mapValues_congr (g := fun v => v.spelled.sorted) ih]
  | _ => rfl

theorem lawful_sorted {v : Value} (h : v.Lawful) : v.sorted.Lawful := by
  induction h with
  | array _ ih =>
    rw [sorted_array]
    exact .array (List.forall_mem_map.2 ih)
  | object nodup _ ih =>
    rw [sorted_object]
    refine .object (nodup_sortByKey (by rwa [map_fst_mapValues])) fun m hm => ?_
    obtain ⟨n, hn, rfl⟩ := mem_mapValues.1 (mem_sortByKey.1 hm)
    exact ih n hn
  | number proper => exact .number proper
  | _ => constructor

theorem lawful_spelled {v : Value} (h : v.Lawful) : v.spelled.Lawful := by
  induction h with
  | array _ ih =>
    rw [spelled_array]
    exact .array (List.forall_mem_map.2 ih)
  | object nodup _ ih =>
    rw [spelled_object]
    exact .object (by rwa [map_fst_mapValues]) (List.forall_mem_map.2 ih)
  | number proper => exact .number proper
  | _ => constructor

/-! ## Writing with sorted keys -/

theorem printItems_eq_map (sortKeys : Bool) : ∀ items : List Value, printItems sortKeys items = items.map (print sortKeys)
  | [] => rfl
  | v :: vs => by rw [printItems, printItems_eq_map sortKeys vs, List.map_cons]

theorem printMembers_eq_map (sortKeys : Bool) (members : List (String × Value)) :
    printMembers sortKeys members = mapValues (print sortKeys) members := by
  induction members with
  | nil => rfl
  | cons m ms ih =>
    obtain ⟨k, v⟩ := m
    rw [printMembers, ih, mapValues, mapValues, List.map_cons]

theorem print_array (sortKeys : Bool) (items : List Value) :
    (array items).print sortKeys = '[' :: (commaSeparated (items.map (print sortKeys)) ++ [']']) := by
  rw [print, printItems_eq_map]

theorem print_object_false (members : List (String × Value)) :
    (object members).print false =
      '{' :: (commaSeparated ((mapValues (print false) members).map memberText) ++ ['}']) := by
  rw [print, printMembers_eq_map]
  rfl

theorem print_object_true (members : List (String × Value)) :
    (object members).print true =
      '{' :: (commaSeparated ((sortByKey (mapValues (print true) members)).map memberText) ++ ['}']) := by
  rw [print, printMembers_eq_map]
  rfl

/-- **Writing with sorted keys is plain writing of the sorted value.** -/
theorem print_true (v : Value) : v.print true = v.sorted.print false := by
  induction v using induct with
  | array items ih =>
    rw [sorted_array, print_array, print_array, List.map_map, List.map_congr_left ih]
    rfl
  | object members ih =>
    rw [sorted_object, print_object_true, print_object_false, mapValues_congr (g := fun v => v.sorted.print false) ih,
      ← sortByKey_mapValues, mapValues_mapValues]
  | _ => rfl

/-! ## Equality -/

theorem equalItems_iff {as : List Value} : ∀ {bs : List Value},
    (∀ a ∈ as, ∀ b ∈ bs, (a.equal b = true ↔ a.sorted = b.sorted)) →
      (equalItems as bs = true ↔ as.map sorted = bs.map sorted) := by
  induction as with
  | nil =>
    intro bs _
    cases bs <;> simp [equalItems]
  | cons a as ih =>
    intro bs h
    cases bs with
    | nil => simp [equalItems]
    | cons b bs =>
      have hab := h a List.mem_cons_self b List.mem_cons_self
      have hrest := ih fun x hx y hy => h x (List.mem_cons_of_mem _ hx) y (List.mem_cons_of_mem _ hy)
      rw [equalItems, Bool.and_eq_true, hab, hrest, List.map_cons, List.map_cons, List.cons.injEq]

theorem equalMembers_iff (as bs : List (String × Value)) :
    equalMembers as bs = true ↔ ∀ m ∈ as, ∃ b, findMember? m.1 bs = some b ∧ m.2.equal b = true := by
  induction as with
  | nil => simp [equalMembers]
  | cons m as ih =>
    obtain ⟨k, a⟩ := m
    rw [equalMembers, Bool.and_eq_true, ih, List.forall_mem_cons]
    cases findMember? k bs <;> simp

/-- Entries whose keys come once are those of another list once sorted, if each is one of them and there are as many. -/
theorem sortByKey_eq_iff {as bs : List (String × Value)} (ha : (as.map Prod.fst).Nodup) :
    sortByKey as = sortByKey bs ↔ as.length = bs.length ∧ ∀ m ∈ as, m ∈ bs := by
  constructor
  · intro h
    have hp : as.Perm bs := (sortByKey_perm as).symm.trans ((List.Perm.of_eq h).trans (sortByKey_perm bs))
    exact ⟨hp.length_eq, fun m hm => hp.mem_iff.1 hm⟩
  · rintro ⟨hlen, hsub⟩
    have hn : as.Nodup := List.Pairwise.of_map Prod.fst (fun a b hne hab => hne (congrArg Prod.fst hab)) ha
    exact sortByKey_eq_of_perm ((List.subperm_of_subset hn hsub).perm_of_length_le (Nat.le_of_eq hlen.symm)) ha

/-- **Lawful values are equal if and only if they are the same once sorted.** -/
theorem equal_iff_sorted_eq {a : Value} (ha : a.Lawful) :
    ∀ {b : Value}, b.Lawful → (a.equal b = true ↔ a.sorted = b.sorted) := by
  induction ha with
  | @array as _ ih =>
    intro b hb
    cases hb with
    | @array bs hbs =>
      rw [sorted_array, sorted_array, array.injEq]
      exact equalItems_iff fun v hv w hw => ih v hv (hbs w hw)
    | object => simp [equal]
    | _ => simp [equal, sorted]
  | @object as ha _ ih =>
    intro b hb
    cases hb with
    | @object bs hb hbs =>
      rw [sorted_object, sorted_object, object.injEq, sortByKey_eq_iff (by rwa [map_fst_mapValues]), equal,
        Bool.and_eq_true, beq_iff_eq, equalMembers_iff]
      simp only [mapValues, List.length_map, List.forall_mem_map]
      refine and_congr_right fun _ => forall₂_congr fun m hm => ?_
      constructor
      · rintro ⟨v, hv, he⟩
        rw [findMember?_eq_some_iff hb] at hv
        exact List.mem_map.2 ⟨_, hv, by rw [(ih m hm (hbs _ hv)).1 he]⟩
      · intro hmem
        obtain ⟨n, hn, hnm⟩ := List.mem_map.1 hmem
        obtain ⟨hk, hv⟩ := Prod.mk.inj hnm
        exact ⟨n.2, (findMember?_eq_some_iff hb).2 (hk ▸ hn), (ih m hm (hbs n hn)).2 hv.symm⟩
    | array => simp [equal]
    | _ => simp [equal, sorted]
  | _ =>
    intro b hb
    cases hb <;> simp [equal, sorted]

end Value

end Json
end ConfigService
