import ConfigService.Json.Reordered
import ConfigService.Proofs.Json.Order
import ConfigService.Proofs.Text.Order
/-!
# Reordered — writing with sorted keys reorders members and does nothing else

There is one way to put the members of every object in the order of their keys, and `Value.sorted` does it
(`reordered_iff`).  So writing with sorted keys is plain writing of the reordered value, whatever sorts the members, and
whether keys are compared by their characters or by their bytes in UTF-8 (`sorting_reorders`).
-/
namespace ConfigService
namespace Json

theorem sortByKey_eq_self {α : Type} {es : List (String × α)} (h : es.Pairwise fun a b => a.1 < b.1) :
    sortByKey es = es :=
  List.mergeSort_of_pairwise (h.imp fun hab => decide_eq_true (le_of_lt hab))

theorem nodup_of_pairwise_lt {α : Type} {es : List (String × α)} (h : es.Pairwise fun a b => a.1 < b.1) :
    (es.map Prod.fst).Nodup :=
  List.pairwise_map.2 (h.imp fun hab => ne_of_lt hab)

/-- Where keys come once, sorting makes them ascend. -/
theorem pairwise_lt_sortByKey {α : Type} {es : List (String × α)} (h : (es.map Prod.fst).Nodup) :
    (sortByKey es).Pairwise fun a b => a.1 < b.1 := by
  have hne : (sortByKey es).Pairwise fun a b => a.1 ≠ b.1 := List.pairwise_map.1 (nodup_sortByKey h)
  exact (List.Pairwise.and (pairwise_sortByKey es) hne).imp fun ⟨hle, hne⟩ => lt_of_le_of_ne hle hne

theorem map_snd_mapValues {α β : Type} (f : α → β) (es : List (String × α)) :
    (mapValues f es).map Prod.snd = (es.map Prod.snd).map f := by
  rw [mapValues, List.map_map, List.map_map]
  rfl

/-- Entries are told by their keys and their values. -/
theorem eq_mapValues {α β : Type} {f : α → β} : ∀ {es : List (String × α)} {fs : List (String × β)},
    es.map Prod.fst = fs.map Prod.fst → fs.map Prod.snd = (es.map Prod.snd).map f → fs = mapValues f es
  | [], [], _, _ => rfl
  | (k, a) :: es, (l, b) :: fs, hkeys, hvalues => by
    obtain ⟨hk, hkeys⟩ := List.cons_eq_cons.1 hkeys
    obtain ⟨hv, hvalues⟩ := List.cons_eq_cons.1 hvalues
    rw [eq_mapValues hkeys hvalues, mapValues, mapValues, List.map_cons]
    exact congrArg (· :: _) (Prod.ext hk.symm hv)

theorem map_eq_of_forall₂ {α β : Type} {R : α → β → Prop} {f : α → β} {as : List α} {bs : List β}
    (h : List.Forall₂ R as bs) (hf : ∀ a ∈ as, ∀ b, R a b → b = f a) : bs = as.map f := by
  induction h with
  | nil => rfl
  | cons hab _ ih =>
    obtain ⟨ha, has⟩ := List.forall_mem_cons.1 hf
    rw [List.map_cons, ← ha _ hab, ih has]

namespace Value

theorem keysOnce_of_lawful {v : Value} (h : v.Lawful) : v.KeysOnce := by
  induction h with
  | array _ ih => exact .array ih
  | object nodup _ ih => exact .object nodup ih
  | _ => constructor

/-- A value whose keys come once is reordered by sorting. -/
theorem reordered_sorted {v : Value} (h : v.KeysOnce) : v.Reordered v.sorted := by
  induction h with
  | @array items _ ih =>
    rw [sorted_array]
    exact .array (List.forall₂_map_right_iff.2 (List.forall₂_same.2 ih))
  | @object members nodup _ ih =>
    rw [sorted_object]
    refine @Reordered.object members (mapValues sorted members) _ (map_fst_mapValues _ _).symm ?_
      (sortByKey_perm _).symm (pairwise_lt_sortByKey (by rwa [map_fst_mapValues]))
    rw [map_snd_mapValues]
    exact List.forall₂_map_right_iff.2 (List.forall₂_same.2 (List.forall_mem_map.2 ih))
  | _ => constructor

/-- No other value is reordered from it. -/
theorem eq_sorted_of_reordered {v : Value} : ∀ {w : Value}, v.Reordered w → w = v.sorted := by
  induction v using induct with
  | array items ih =>
    intro w h
    cases h with
    | @array _ bs hitems =>
      rw [sorted_array, map_eq_of_forall₂ hitems fun v hv w => ih v hv]
  | object members ih =>
    intro w h
    cases h with
    | @object _ bs cs hkeys hvalues hperm hascending =>
      have hbs : bs = mapValues sorted members :=
        eq_mapValues hkeys (map_eq_of_forall₂ hvalues (List.forall_mem_map.2 fun m hm w => ih m hm))
      rw [sorted_object, ← hbs, ← sortByKey_eq_of_perm hperm.symm (nodup_of_pairwise_lt hascending),
        sortByKey_eq_self hascending]
  | _ =>
    intro w h
    cases h
    rfl

/-- **There is one way to reorder a value**, and sorting finds it. -/
theorem reordered_iff {v w : Value} (h : v.KeysOnce) : v.Reordered w ↔ w = v.sorted :=
  ⟨eq_sorted_of_reordered, fun hw => hw ▸ reordered_sorted h⟩

/-- **Sorting the keys is only reordering.**  For every value there is one that has the members of each object, at any
depth, in strictly ascending order of their keys and is the same in all else, and only one; writing with sorted keys is
writing that value as it stands.  The order of the keys is that of their code points, and their bytes in UTF-8 have the
same order. -/
theorem sorting_reorders {v : Value} (h : v.KeysOnce) :
    (∃! w, v.Reordered w) ∧ (∀ w, v.Reordered w → v.encode true = w.encode false) ∧
      ∀ j k : String, j.toUTF8.data.toList < k.toUTF8.data.toList ↔ j < k := by
  refine ⟨⟨v.sorted, (reordered_iff h).2 rfl, fun w hw => (reordered_iff h).1 hw⟩, fun w hw => ?_, utf8_lt_iff⟩
  rw [encode_eq, encode_eq, print_true, (reordered_iff h).1 hw]

/-- A key that another one begins with, a key of two bytes, and an object in an array. -/
theorem sorting_reorders_nested :
    (object [("é", .null), ("za", .array [.object [("b", .null), ("a", .bool true)]]), ("z", .string "")]).KeysOnce ∧
      (object [("é", .null), ("za", .array [.object [("b", .null), ("a", .bool true)]]), ("z", .string "")]).encode true =
        (object [("z", .string ""), ("za", .array [.object [("a", .bool true), ("b", .null)]]), ("é", .null)]).encode
          false := by
  have hkeys : (object [("é", .null), ("za", .array [.object [("b", .null), ("a", .bool true)]]),
      ("z", .string "")]).KeysOnce :=
    keysOnce_of_lawful (Build.value_lawful
      (b := .object [("é", .null), ("za", .array [.object [("b", .null), ("a", .bool true)]]), ("z", .string "")]) rfl)
  have hinner : (object [("b", .null), ("a", .bool true)]).Reordered (.object [("a", .bool true), ("b", .null)]) :=
    @Reordered.object _ [("b", .null), ("a", .bool true)] _ rfl (.cons .null (.cons (.bool true) .nil)) (.swap _ _ [])
      (by decide)
  refine ⟨hkeys, (sorting_reorders hkeys).2.1 _ ?_⟩
  refine @Reordered.object _ [("é", .null), ("za", .array [.object [("a", .bool true), ("b", .null)]]), ("z", .string "")]
    _ rfl (.cons .null (.cons (.array (.cons hinner .nil)) (.cons (.string "") .nil))) ?_ (by decide)
  exact ((List.Perm.swap _ _ _).trans ((List.Perm.swap _ _ _).cons _)).trans (List.Perm.swap _ _ _)

end Value

end Json
end ConfigService
