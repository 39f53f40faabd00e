import ConfigService.Proofs.Config.Document
import ConfigService.Proofs.Config.Update
import ConfigService.Proofs.Json.Entries
/-!
# Acceptance — which documents are configurations and updates

A configuration is read from a document in which each field stands exactly once with a value of its kind; the time may be
missing, and what else stands there makes no difference.  An update is read from one in which no field stands twice and
nothing else stands at all.  Both hold of objects in any order and of lists in the declared order
(`document_read_iff`).
-/
namespace ConfigService

open Json

def Kind.spelled? : (k : Kind) → Tree → Option k.Carrier
  | .text => Tree.string?
  | .count => Tree.count?
  | .flag => Tree.bool?

theorem Kind.read_readsTree : ∀ k : Kind, ReadsTree k.read k.spelled?
  | .text => readString_readsTree
  | .count => readCount_readsTree
  | .flag => readBool_readsTree

theorem Json.ReadsTree.map {ε α β : Type} {read : Text → Except ε (α × Text)} {spelled? : Tree → Option α}
    (h : ReadsTree read spelled?) (f : α → β) :
    ReadsTree (fun t => (read t).map fun (a, rest) => (f a, rest)) fun t => (spelled? t).map f := by
  intro gap t rest hrest
  rw [toOption_map, h gap t rest hrest]
  simp only
  cases spelled? t <;> rfl

section SetField

variable {V : Field → Type} (values : (f : Field) → Option (V f))

theorem setField_self (f : Field) (v : V f) : setField values f v f = some v := by
  simp [setField]

theorem setField_of_ne {f g : Field} (v : V f) (h : f ≠ g) : setField values f v g = values g := by
  simp [setField, h]

end SetField

namespace Config

/-- The draft of a configuration as a table: the fields of an update, and the time. -/
def table : Table shape where
  Index := Option Field
  Val
    | some f => f.Value
    | none => Option Timestamp
  order := Field.all.map some ++ [none]
  slot
    | some f => fieldSlot f
    | none => updatedAtSlot
  get d
    | some f => d.value f
    | none => d.updatedAt
  put
    | some f, v, d => { d with value := setField d.value f v }
    | none, v, d => { d with updatedAt := some v }
  spelled?
    | some f => f.kind.spelled?
    | none => Tree.optional? Tree.timestamp?
  slots_eq := rfl
  mem_order
    | some f => List.mem_append_left _ (List.mem_map_of_mem (Field.mem_all f))
    | none => List.mem_append_right _ List.mem_cons_self
  nodup := by decide
  isFilled_eq i d := by cases i <;> rfl
  fill_reads
    | some f, d => (plainly_readsTree f.kind.read_readsTree).map fun v => ({ d with value := setField d.value f v } : Draft)
    | none, d => (readOptional_readsTree readTimestamp_readsTree).map fun v => ({ d with updatedAt := some v } : Draft)
  get_put_self
    | some f, v, d => setField_self d.value f v
    | none, _, _ => rfl
  get_put_of_ne := by
    rintro (_ | f) (_ | g) v d h
    · exact absurd rfl h
    · rfl
    · rfl
    · exact setField_of_ne d.value v fun hfg => h (congrArg some hfg)
  ext h := congrArg₂ Draft.mk (funext fun f => h (some f)) (h none)
  get_empty i := by cases i <;> rfl

/-- The entries of a document that spell a configuration. -/
structure SpelledBy (c : Config) (es : List (String × Tree)) : Prop where
  field : ∀ f : Field, ∃ t, valuesOf f.name es = [t] ∧ f.kind.spelled? t = some (c.value f)
  updatedAt : valuesOf updatedAtName es = [] ∧ c.updatedAt = none ∨
    ∃ t, valuesOf updatedAtName es = [t] ∧ t.optional? Tree.timestamp? = some c.updatedAt

theorem read_eq_ok_iff (doc : Padded Tree) (c : Config) :
    Config.read (Text.ofChars doc.text) = .ok c ↔
      ∃ es, doc.value.entries? shape.names = some es ∧ c.SpelledBy es := by
  rw [Config.read, map_eq_ok_iff]
  constructor
  · rintro ⟨d, hd, rfl⟩
    obtain ⟨es, hes, -, hfilled, hcomplete⟩ := (table.read_iff (by decide) doc d).1 hd
    refine ⟨es, hes, fun f => ?_, ?_⟩
    · have hsome : (d.value f).isSome := hcomplete (some f) rfl
      have hentry : valuesOf f.name es = [] ∧ d.value f = none ∨
          ∃ t v, valuesOf f.name es = [t] ∧ f.kind.spelled? t = some v ∧ d.value f = some v :=
        Table.filled_none_iff.1 (hfilled (some f))
      rcases hentry with ⟨-, hnone⟩ | ⟨t, v, hvalues, hspelled, hv⟩
      · rw [hnone] at hsome
        cases hsome
      · have hvalue : (ofDraft d).value f = v := by simp only [ofDraft, hv, Option.getD_some]
        exact ⟨t, hvalues, hspelled.trans (congrArg some hvalue.symm)⟩
    · have hentry : valuesOf updatedAtName es = [] ∧ d.updatedAt = none ∨
          ∃ t v, valuesOf updatedAtName es = [t] ∧ t.optional? Tree.timestamp? = some v ∧ d.updatedAt = some v :=
        Table.filled_none_iff.1 (hfilled none)
      rcases hentry with ⟨hvalues, hnone⟩ | ⟨t, v, hvalues, hspelled, hv⟩
      · have htime : (ofDraft d).updatedAt = none := by simp only [ofDraft, hnone, Option.getD_none]
        exact .inl ⟨hvalues, htime⟩
      · have htime : (ofDraft d).updatedAt = v := by simp only [ofDraft, hv, Option.getD_some]
        exact .inr ⟨t, hvalues, hspelled.trans (congrArg some htime.symm)⟩
  · rintro ⟨es, hes, hfield, htime⟩
    -- the draft holds the time if the document does
    obtain ⟨time, htable, htime⟩ : ∃ time, Table.Filled (Tree.optional? Tree.timestamp?) none (valuesOf updatedAtName es) time ∧
        time.getD none = c.updatedAt := by
      rcases htime with ⟨hvalues, hnone⟩ | ⟨t, hvalues, hspelled⟩
      · exact ⟨none, hvalues ▸ .kept none, hnone.symm⟩
      · exact ⟨some c.updatedAt, hvalues ▸ .filled hspelled, rfl⟩
    refine ⟨⟨fun f => some (c.value f), time⟩, (table.read_iff (by decide) doc _).2 ⟨es, hes, ?_, ?_, ?_⟩, ?_⟩
    · exact fun h => absurd h (by decide)
    · rintro (_ | f)
      · exact htable
      · obtain ⟨t, hvalues, hspelled⟩ := hfield f
        exact Table.filled_none_iff.2 (.inr ⟨t, c.value f, hvalues, hspelled, rfl⟩)
    · rintro (_ | f) hrequired
      · cases hrequired
      · rfl
    · exact Config.ext (fun f => rfl) htime

end Config

namespace Update

def table : Table shape where
  Index := Field
  Val f := Option f.Value
  order := Field.all
  slot := fieldSlot
  get d f := d.value f
  put f v d := ⟨setField (V := fun g => Option g.Value) d.value f v⟩
  spelled? f := Tree.optional? f.kind.spelled?
  slots_eq := rfl
  mem_order := Field.mem_all
  nodup := by decide
  isFilled_eq _ _ := rfl
  fill_reads f d := (readOptional_readsTree (plainly_readsTree f.kind.read_readsTree)).map fun v =>
    (⟨setField (V := fun g => Option g.Value) d.value f v⟩ : Draft)
  get_put_self f v d := setField_self d.value f v
  get_put_of_ne v d h := setField_of_ne d.value v h
  ext h := congrArg Draft.mk (funext h)
  get_empty _ := rfl

structure SpelledBy (u : Update) (es : List (String × Tree)) : Prop where
  known : ∀ e ∈ es, ∃ f : Field, f.name = e.1
  field : ∀ f : Field, valuesOf f.name es = [] ∧ u.value f = none ∨
    ∃ t, valuesOf f.name es = [t] ∧ t.optional? f.kind.spelled? = some (u.value f)

theorem read_eq_ok_iff (doc : Padded Tree) (u : Update) :
    Update.read (Text.ofChars doc.text) = .ok u ↔
      ∃ es, doc.value.entries? shape.names = some es ∧ u.SpelledBy es := by
  rw [Update.read, map_eq_ok_iff]
  constructor
  · rintro ⟨d, hd, rfl⟩
    obtain ⟨es, hes, hknown, hfilled, -⟩ := (table.read_iff (by decide) doc d).1 hd
    refine ⟨es, hes, hknown rfl, fun f => ?_⟩
    have hentry : valuesOf f.name es = [] ∧ d.value f = none ∨
        ∃ t v, valuesOf f.name es = [t] ∧ t.optional? f.kind.spelled? = some v ∧ d.value f = some v :=
      Table.filled_none_iff.1 (hfilled f)
    rcases hentry with ⟨hvalues, hnone⟩ | ⟨t, v, hvalues, hspelled, hv⟩
    · have hvalue : (ofDraft d).value f = none := by simp only [ofDraft, hnone, Option.getD_none]
      exact .inl ⟨hvalues, hvalue⟩
    · have hvalue : (ofDraft d).value f = v := by simp only [ofDraft, hv, Option.getD_some]
      exact .inr ⟨t, hvalues, hspelled.trans (congrArg some hvalue.symm)⟩
  · rintro ⟨es, hes, hknown, hfield⟩
    -- the draft holds what the document does, and `null` is held too
    have hplace (f : Field) : ∃ v, Table.Filled (Tree.optional? f.kind.spelled?) none (valuesOf f.name es) v ∧
        v.getD none = u.value f := by
      rcases hfield f with ⟨hvalues, hnone⟩ | ⟨t, hvalues, hspelled⟩
      · exact ⟨none, hvalues ▸ .kept none, hnone.symm⟩
      · exact ⟨some (u.value f), hvalues ▸ .filled hspelled, rfl⟩
    choose value hfilled hvalue using hplace
    refine ⟨⟨value⟩, (table.read_iff (by decide) doc _).2 ⟨es, hes, fun _ => hknown, hfilled, fun f h => ?_⟩,
      Update.ext hvalue⟩
    cases h

end Update

/-! ## Documents in any order -/

theorem valuesOf_perm (key : String) {es es' : List (String × Tree)} (h : es.Perm es') :
    (valuesOf key es).Perm (valuesOf key es') := (h.filter _).map _

/-- The entries of a document that a configuration's reader knows. -/
def Config.known (es : List (String × Tree)) : List (String × Tree) := es.filter fun e => decide (e.1 ∈ shape.names)

theorem valuesOf_known {key : String} (h : key ∈ Config.shape.names) (es : List (String × Tree)) :
    valuesOf key (Config.known es) = valuesOf key es := by
  have hkey : ∀ e ∈ es, (e.1 == key && decide (e.1 ∈ Config.shape.names)) = (e.1 == key) := by
    intro e _
    by_cases he : e.1 = key
    · simp [he, h]
    · simp [he]
  rw [valuesOf, Config.known, List.filter_filter, List.filter_congr hkey]
  rfl

theorem Config.SpelledBy.of_perm {c : Config} {es es' : List (String × Tree)}
    (hperm : (Config.known es).Perm (Config.known es')) (h : c.SpelledBy es) : c.SpelledBy es' := by
  have hvalues (key : String) (hkey : key ∈ Config.shape.names) : (valuesOf key es).Perm (valuesOf key es') := by
    rw [← valuesOf_known hkey es, ← valuesOf_known hkey es']
    exact valuesOf_perm key hperm
  have htime := hvalues Config.updatedAtName (by decide)
  refine ⟨fun f => ?_, ?_⟩
  · obtain ⟨t, ht, hspelled⟩ := h.field f
    have hfield := hvalues f.name (by cases f <;> decide)
    rw [ht] at hfield
    exact ⟨t, (List.singleton_perm.1 hfield).symm, hspelled⟩
  · rcases h.updatedAt with ⟨ht, hnone⟩ | ⟨t, ht, hspelled⟩
    · rw [ht] at htime
      exact .inl ⟨List.nil_perm.1 htime, hnone⟩
    · rw [ht] at htime
      exact .inr ⟨t, (List.singleton_perm.1 htime).symm, hspelled⟩

/-- **Which documents are read, and to what.**  A document is a configuration if and only if its entries spell one, and
then it is that one; so its fields may stand in any order, and what the reader does not know may come and go.  In the same
way it is an update if and only if its entries spell one. -/
theorem document_read_iff :
    (∀ (doc : Padded Tree) (c : Config), Config.read (Text.ofString (String.ofList doc.text)) = .ok c ↔
      ∃ es, doc.value.entries? Config.shape.names = some es ∧ c.SpelledBy es) ∧
    (∀ (doc doc' : Padded Tree) (es es' : List (String × Tree)) (c : Config),
      doc.value.entries? Config.shape.names = some es → doc'.value.entries? Config.shape.names = some es' →
      (Config.known es).Perm (Config.known es') → Config.read (Text.ofString (String.ofList doc.text)) = .ok c →
      Config.read (Text.ofString (String.ofList doc'.text)) = .ok c) ∧
    ∀ (doc : Padded Tree) (u : Update), Update.read (Text.ofString (String.ofList doc.text)) = .ok u ↔
      ∃ es, doc.value.entries? Update.shape.names = some es ∧ u.SpelledBy es := by
  simp only [Text.ofString_ofList]
  refine ⟨Config.read_eq_ok_iff, fun doc doc' es es' c hes hes' hperm h => ?_, Update.read_eq_ok_iff⟩
  obtain ⟨es₀, hes₀, hspelled⟩ := (Config.read_eq_ok_iff doc c).1 h
  obtain rfl : es₀ = es := Option.some.inj (hes₀.symm.trans hes)
  exact (Config.read_eq_ok_iff doc' c).2 ⟨es', hes', hspelled.of_perm hperm⟩

/-- A literal without escapes. -/
def Json.Spelled.plainly (s : String) : Spelled :=
  s.toList.filterMap fun c => if h : c ≠ '"' ∧ c ≠ '\\' ∧ ¬c.toNat < 0x20 then some (.plain c h) else none

def Json.Member.plainly (key : String) (t : Tree) : Member Tree := ⟨[], .plainly key, [], ⟨[], t, []⟩⟩

/-- The members of a restricted configuration without a cache. -/
def restrictedMembers : List (Member Tree) :=
  [.plainly "default_project" (.string []), .plainly "default_dataset" (.string []), .plainly "default_table" (.string []),
    .plainly "analytics_key" (.string []),
    .plainly "cache_duration" (.number ⟨.ofInt 0, proper_ofInt 0, false, false⟩),
    .plainly "restrict_view_to_admin" (.bool true), .plainly "restrict_save_to_admin" (.bool true),
    .plainly "restrict_query_to_admin" (.bool true), .plainly "updated_at" .null]

def restrictedConfig : Config where
  value
    | .defaultProject | .defaultDataset | .defaultTable | .analyticsKey => ("" : String)
    | .cacheDuration => (0 : UInt64)
    | .restrictView | .restrictSave | .restrictQuery => true
  updatedAt := none

theorem document_read_iff_reversed :
    Config.read (Text.ofString (String.ofList
        (Padded.text ⟨[.space], .object [] (.plainly "x" .null :: restrictedMembers.reverse), [.tab]⟩))) =
      .ok restrictedConfig := by
  let es := restrictedMembers.map fun m => (m.key.string?.getD "", m.value.value)
  refine document_read_iff.2.1 ⟨[], .object [] restrictedMembers, []⟩ _ es (("x", .null) :: es.reverse) _ rfl rfl ?_ ?_
  · rw [Config.known, Config.known, List.filter_cons, if_neg (by decide), List.filter_reverse]
    exact (List.reverse_perm _).symm
  · have hfield (f : Field) : ∃ t, valuesOf f.name es = [t] ∧ f.kind.spelled? t = some (restrictedConfig.value f) := by
      cases f <;> exact ⟨_, rfl, rfl⟩
    exact (document_read_iff.1 _ _).2 ⟨es, rfl, hfield, .inr ⟨_, rfl, rfl⟩⟩

end ConfigService
