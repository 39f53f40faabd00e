import ConfigService.Proofs.Payload.Lower
/-!
# Writable — exactly which payloads can be written, and the error of the others

The two walks stop at different places, but each goes wrong at a part of its own: the first at the first part with a
fault (`firstFault_eq_findSome?`), the second, if no part has a fault, at a map with a key that is not shown or at a record
under a mark that is not spelled (`lower_eq_error`).  Where neither stops nothing stands in the way of any part.
-/
namespace ConfigService

namespace Payload

open Json (Value exists_of_map_eq_ok)

/-! ## The first walk -/

theorem firstFaultInItems_eq (items : List Payload) : firstFaultInItems items = items.findSome? firstFault := by
  induction items with
  | nil => rfl
  | cons p ps ih =>
    rw [firstFaultInItems, ih, List.findSome?_cons]
    cases p.firstFault <;> rfl

theorem firstFaultInEntries_eq (entries : List (Payload × Payload)) :
    firstFaultInEntries entries = (entries.flatMap fun e => [e.1, e.2]).findSome? firstFault := by
  induction entries with
  | nil => rfl
  | cons e es ih =>
    rw [firstFaultInEntries, ih, List.flatMap_cons, List.findSome?_append, List.findSome?_cons, List.findSome?_cons]
    cases e.1.firstFault <;> cases e.2.firstFault <;> rfl

theorem firstFaultInFields_eq (fields : List (String × Payload)) :
    firstFaultInFields fields = (fields.map Prod.snd).findSome? firstFault := by
  induction fields with
  | nil => rfl
  | cons f fs ih =>
    rw [firstFaultInFields, ih, List.map_cons, List.findSome?_cons]
    cases f.2.firstFault <;> rfl

theorem firstFault_eq (p : Payload) : p.firstFault = p.ownFault?.or (p.children.findSome? firstFault) := by
  cases p <;>
    simp [firstFault, ownFault?, children, firstFaultInItems_eq, firstFaultInEntries_eq, firstFaultInFields_eq]

/-- The first walk finds the first fault in the order of writing. -/
theorem firstFault_eq_findSome? (p : Payload) : p.firstFault = p.parts.findSome? ownFault? := by
  induction p using induct with
  | step p ih =>
    -- the walk goes on with the next child only if the one before has no fault anywhere in it
    have hchildren : ∀ ps : List Payload, (∀ q ∈ ps, q.firstFault = q.parts.findSome? ownFault?) →
        ps.findSome? firstFault = (ps.flatMap parts).findSome? ownFault? := by
      intro ps
      induction ps with
      | nil => exact fun _ => rfl
      | cons q ps ihps =>
        intro h
        rw [List.findSome?_cons, List.flatMap_cons, List.findSome?_append, h q List.mem_cons_self,
          ihps fun r hr => h r (List.mem_cons_of_mem _ hr)]
        cases q.parts.findSome? ownFault? <;> rfl
    rw [firstFault_eq, parts_eq, List.findSome?_cons, hchildren p.children ih]
    cases p.ownFault? <;> rfl

theorem firstFault_eq_none_iff {p : Payload} : p.firstFault = .none ↔ p.Faultless := by
  rw [firstFault_eq_findSome?, List.findSome?_eq_none_iff]
  rfl

theorem Faultless.of_child {p c : Payload} (h : p.Faultless) (hc : c ∈ p.children) : c.Faultless :=
  fun _ hq => h _ (mem_parts_of_child hc hq)

/-! ## Keys -/

theorem ofValue_eq_ok (layout : Json.Positional) {v : BinaryValue} (h : v.fault? = .none) :
    ∃ n, Json.Numeral.ofValue layout v = .ok n := by
  cases v with
  | finite negative significand exponent narrow => exact ⟨_, rfl⟩
  | _ => cases h

theorem floatText_eq_ok (layout : Json.Positional) {v : BinaryValue} (h : v.fault? = .none) :
    ∃ s, floatText layout v = .ok s := by
  obtain ⟨n, hn⟩ := ofValue_eq_ok layout h
  exact ⟨String.ofList n.text, by rw [floatText, hn]; rfl⟩

theorem fault?_of_floatText {layout : Json.Positional} {v : BinaryValue} {s : String}
    (h : floatText layout v = .ok s) : v.fault? = .none := by
  cases v with
  | finite negative significand exponent narrow => rfl
  | _ => cases h

/-- What is shown as a key is a key. -/
theorem isKey_of_keyText (k : Payload) : ∀ {s : String}, keyText k = .ok s → k.IsKey := by
  induction k using induct with
  | step k ih =>
    intro s h
    cases k with
    | float32 bits => exact fault?_of_floatText h
    | float64 bits => exact fault?_of_floatText h
    | wrapped name p => exact ih p List.mem_cons_self h
    | value v => cases v <;> trivial
    | _ => trivial

theorem keyText_of_isKey (k : Payload) : k.IsKey → ∃ s, keyText k = .ok s := by
  induction k using induct with
  | step k ih =>
    intro h
    cases k with
    | float32 bits => exact floatText_eq_ok _ h
    | float64 bits => exact floatText_eq_ok _ h
    | wrapped name p => exact ih p List.mem_cons_self h
    | value v => cases v <;> first | exact ⟨_, rfl⟩ | cases h
    | _ => first | exact ⟨_, rfl⟩ | cases h

/-- The only error of a key without faults is that it is not shown. -/
theorem keyText_eq_error (k : Payload) (hk : k.Faultless) {e : EncodeError} :
    keyText k = .error e → e = .badKey := by
  induction k using induct with
  | step k ih =>
    intro h
    have hown : k.ownFault? = .none := hk k (mem_parts_self k)
    cases k with
    | float32 bits =>
      obtain ⟨s, hs⟩ := floatText_eq_ok Json.positional32 hown
      cases hs.symm.trans h
    | float64 bits =>
      obtain ⟨s, hs⟩ := floatText_eq_ok Json.positional64 hown
      cases hs.symm.trans h
    | wrapped name p => exact ih p List.mem_cons_self (hk.of_child List.mem_cons_self) h
    | fail message => cases hown
    | value v => cases v <;> cases h <;> rfl
    | _ => cases h <;> rfl

theorem lower_of_isKey (k : Payload) : k.IsKey → ∃ v, k.lower = .ok v := by
  induction k using induct with
  | step k ih =>
    intro h
    cases k with
    | float32 bits =>
      obtain ⟨n, hn⟩ := ofValue_eq_ok Json.positional32 h
      exact ⟨.number n, by rw [lower, hn]; rfl⟩
    | float64 bits =>
      obtain ⟨n, hn⟩ := ofValue_eq_ok Json.positional64 h
      exact ⟨.number n, by rw [lower, hn]; rfl⟩
    | wrapped name p => exact ih p List.mem_cons_self h
    | _ => first | exact ⟨_, rfl⟩ | cases h

/-! ## Marked records -/

theorem spelledField_eq_ok_iff {mark : Mark} {f : String × Payload} {v : Value} :
    spelledField mark f = .ok v ↔ f.1 = mark.key ∧ ∃ s, f.2.heldString? = .some s ∧ mark.read s = .ok v := by
  obtain ⟨key, p⟩ := f
  by_cases hkey : key = mark.key
  · cases p with
    | value w => cases w <;> simp [spelledField, heldString?, hkey]
    | _ => simp [spelledField, heldString?, hkey]
  · simp [spelledField, hkey]

theorem lower_of_heldString? {p : Payload} {s : String} (h : p.heldString? = .some s) : ∃ v, p.lower = .ok v := by
  cases p <;> first | exact ⟨_, rfl⟩ | cases h

theorem markedValue_cons_cons (mark : Mark) (f g : String × Payload) (fields : List (String × Payload)) :
    markedValue mark (f :: g :: fields) =
      match spelledField mark f with
      | .error e => .error e
      | .ok _ => markedValue mark (g :: fields) := rfl

/-- A marked record stands for a value exactly if its fields spell one. -/
theorem markedValue_eq_ok_iff {mark : Mark} (fields : List (String × Payload)) :
    (∃ v, markedValue mark fields = .ok v) ↔ mark.Spelled fields := by
  have hfield : ∀ f : String × Payload, (∃ v, spelledField mark f = .ok v) ↔
      f.1 = mark.key ∧ ∃ s v, f.2.heldString? = .some s ∧ mark.read s = .ok v := by
    intro f
    simp only [spelledField_eq_ok_iff]
    constructor
    · rintro ⟨v, hkey, s, hs, hv⟩
      exact ⟨hkey, s, v, hs, hv⟩
    · rintro ⟨hkey, s, v, hs, hv⟩
      exact ⟨v, hkey, s, hs, hv⟩
  rw [Mark.Spelled]
  simp only [← hfield]
  induction fields with
  | nil => simp [markedValue]
  | cons f fields ih =>
    cases fields with
    | nil => simp [markedValue]
    | cons g fields =>
      rw [markedValue_cons_cons]
      cases hf : spelledField mark f with
      | error e => simp [hf]
      | ok v => simpa [hf] using ih

/-! ## The second walk -/

/-- What the second walk may stop at in a payload itself. -/
inductive Stops (p : Payload) : EncodeError → Prop
  | key {k : Payload} (mem : k ∈ p.ownKeys) (unshown : ¬k.IsKey) : Stops p .badKey
  | spelling {name : String} {fields : List (String × Payload)} {mark : Mark} {e : EncodeError}
      (record : p = .record name fields) (marked : mark? name = .some mark)
      (report : markedValue mark fields = .error e) : Stops p e

theorem lowerItems_eq_error {items : List Payload} {e : EncodeError} (h : lowerItems items = .error e) :
    ∃ q ∈ items, q.lower = .error e :=
  exists_of_mapM_eq_error (lowerItems_eq_mapM items ▸ h)

theorem lowerFields_eq_error {fields : List (String × Payload)} {e : EncodeError} (h : lowerFields fields = .error e) :
    ∃ q ∈ fields.map Prod.snd, q.lower = .error e := by
  obtain ⟨f, hf, he⟩ := exists_of_mapM_eq_error (lowerFields_eq_mapM fields ▸ h)
  exact ⟨f.2, List.mem_map_of_mem hf, map_eq_error_iff.1 he⟩

/-- Where the second walk stops: at the payload itself or at a child. -/
theorem stops_or_child {p : Payload} {e : EncodeError} (hp : p.Faultless) (h : p.lower = .error e) :
    p.Stops e ∨ ∃ c ∈ p.children, c.lower = .error e := by
  have hown : p.ownFault? = .none := hp p (mem_parts_self p)
  cases p with
  | float32 bits =>
    obtain ⟨n, hn⟩ := ofValue_eq_ok Json.positional32 hown
    cases hn.symm.trans (map_eq_error_iff.1 h)
  | float64 bits =>
    obtain ⟨n, hn⟩ := ofValue_eq_ok Json.positional64 hown
    cases hn.symm.trans (map_eq_error_iff.1 h)
  | some p => exact .inr ⟨p, List.mem_cons_self, h⟩
  | wrapped _ p => exact .inr ⟨p, List.mem_cons_self, h⟩
  | wrappedVariant _ _ p => exact .inr ⟨p, List.mem_cons_self, map_eq_error_iff.1 h⟩
  | sequence items => exact .inr (lowerItems_eq_error (map_eq_error_iff.1 h))
  | tuple items => exact .inr (lowerItems_eq_error (map_eq_error_iff.1 h))
  | namedTuple _ items => exact .inr (lowerItems_eq_error (map_eq_error_iff.1 h))
  | tupleVariant _ _ items => exact .inr (lowerItems_eq_error (map_eq_error_iff.1 h))
  | map entries =>
    rw [lower, map_eq_error_iff, lowerEntries_eq_mapM] at h
    obtain ⟨entry, hmem, he⟩ := exists_of_mapM_eq_error h
    rcases memberOfEntry_eq_error he with hk | hv
    -- a key without faults has no error but its own
    · obtain rfl := keyText_eq_error entry.1 (hp.of_child (key_mem_children hmem)) hk
      refine .inl (.key (List.mem_map_of_mem hmem) fun hkey => ?_)
      obtain ⟨s, hs⟩ := keyText_of_isKey entry.1 hkey
      cases hs.symm.trans hk
    · exact .inr ⟨entry.2, value_mem_children hmem, hv⟩
  | record name fields =>
    rw [lower] at h
    cases hmark : mark? name with
    | some mark =>
      rw [hmark] at h
      exact .inl (.spelling rfl hmark h)
    | none =>
      rw [hmark] at h
      exact .inr (lowerFields_eq_error (map_eq_error_iff.1 h))
  | recordVariant _ _ fields => exact .inr (lowerFields_eq_error (map_eq_error_iff.1 h))
  | fail message => cases hown
  | _ => cases h

theorem lower_of_lowerItems {items : List Payload} {vs : List Value} (h : lowerItems items = .ok vs) :
    ∀ c ∈ items, ∃ w, c.lower = .ok w := fun c hc =>
  (exists_of_mapM_eq_ok (lowerItems_eq_mapM items ▸ h) c hc).imp fun _ hw => hw.2

theorem lower_of_lowerFields {fields : List (String × Payload)} {ms : List (String × Value)}
    (h : lowerFields fields = .ok ms) : ∀ c ∈ fields.map Prod.snd, ∃ w, c.lower = .ok w := by
  intro c hc
  obtain ⟨f, hf, rfl⟩ := List.mem_map.1 hc
  obtain ⟨m, -, hm⟩ := exists_of_mapM_eq_ok (lowerFields_eq_mapM fields ▸ h) f hf
  exact ⟨m.2, (memberOfField_eq_ok_iff.1 hm).2⟩

theorem isKey_of_lower {p : Payload} {v : Value} (h : p.lower = .ok v) : ∀ k ∈ p.ownKeys, k.IsKey := by
  cases p with
  | map entries =>
    intro k hk
    obtain ⟨e, he, rfl⟩ := List.mem_map.1 hk
    obtain ⟨ms, hms, -⟩ := exists_of_map_eq_ok h
    obtain ⟨m, -, hm⟩ := exists_of_mapM_eq_ok (lowerEntries_eq_mapM entries ▸ hms) e he
    exact isKey_of_keyText e.1 (memberOfEntry_eq_ok_iff.1 hm).1
  | _ => exact fun _ hk => absurd hk List.not_mem_nil

theorem spelled_of_lower {name : String} {fields : List (String × Payload)} {mark : Mark} {v : Value}
    (hmark : mark? name = .some mark) (h : (record name fields).lower = .ok v) : mark.Spelled fields := by
  rw [lower, hmark] at h
  exact (markedValue_eq_ok_iff fields).1 ⟨v, h⟩

theorem lower_children {p : Payload} {v : Value} (h : p.lower = .ok v) : ∀ c ∈ p.children, ∃ w, c.lower = .ok w := by
  cases p with
  | some p => exact List.forall_mem_singleton.2 ⟨v, h⟩
  | wrapped _ p => exact List.forall_mem_singleton.2 ⟨v, h⟩
  | wrappedVariant _ _ p => exact List.forall_mem_singleton.2 ((exists_of_map_eq_ok h).imp fun _ hw => hw.1)
  | sequence items | tuple items | namedTuple _ items | tupleVariant _ _ items =>
    obtain ⟨vs, hvs, -⟩ := exists_of_map_eq_ok h
    exact lower_of_lowerItems hvs
  | map entries =>
    intro c hc
    obtain ⟨e, he, hc⟩ := List.mem_flatMap.1 hc
    obtain ⟨ms, hms, -⟩ := exists_of_map_eq_ok h
    obtain ⟨m, -, hm⟩ := exists_of_mapM_eq_ok (lowerEntries_eq_mapM entries ▸ hms) e he
    obtain ⟨hkey, hval⟩ := memberOfEntry_eq_ok_iff.1 hm
    rcases List.mem_cons.1 hc with rfl | hc
    · exact lower_of_isKey e.1 (isKey_of_keyText e.1 hkey)
    · exact ⟨m.2, List.mem_singleton.1 hc ▸ hval⟩
  | record name fields =>
    cases hmark : mark? name with
    | some mark =>
      intro c hc
      obtain ⟨f, hf, rfl⟩ := List.mem_map.1 hc
      -- the second walk does not look into a marked record, but its fields are strings
      obtain ⟨-, s, w, hs, -⟩ := (spelled_of_lower hmark h).2 f hf
      exact lower_of_heldString? hs
    | none =>
      rw [lower, hmark] at h
      obtain ⟨ms, hms, -⟩ := exists_of_map_eq_ok h
      exact lower_of_lowerFields hms
  | recordVariant _ _ fields =>
    obtain ⟨ms, hms, -⟩ := exists_of_map_eq_ok h
    exact lower_of_lowerFields hms
  | _ => exact fun _ hc => absurd hc List.not_mem_nil

theorem mem_keys_iff {p k : Payload} : k ∈ p.keys ↔ ∃ q ∈ p.parts, k ∈ q.ownKeys := List.mem_flatMap

/-- **The second walk stops only where a part stands in the way.** -/
theorem unwritable_of_lower (p : Payload) (hp : p.Faultless) {e : EncodeError} (h : p.lower = .error e) :
    p.Unwritable e := by
  have hpart : ∃ q ∈ p.parts, q.Stops e := by
    induction p using induct with
    | step p ih =>
      rcases stops_or_child hp h with hstops | ⟨c, hc, he⟩
      · exact ⟨p, mem_parts_self p, hstops⟩
      · obtain ⟨q, hq, hstops⟩ := ih c hc (hp.of_child hc) he
        exact ⟨q, mem_parts_of_child hc hq, hstops⟩
  obtain ⟨q, hq, hstops⟩ := hpart
  cases hstops with
  | key mem unshown => exact .key hp (mem_keys_iff.2 ⟨q, hq, mem⟩) unshown
  | spelling record marked report => exact .spelling hp (record ▸ hq) marked report

/-- **Where it goes through it goes through every part.** -/
theorem lower_parts (p : Payload) {v : Value} (h : p.lower = .ok v) : ∀ q ∈ p.parts, ∃ w, q.lower = .ok w := by
  induction p using induct generalizing v with
  | step p ih =>
    intro q hq
    rcases mem_parts_iff.1 hq with rfl | ⟨c, hc, hq⟩
    · exact ⟨v, h⟩
    · obtain ⟨w, hw⟩ := lower_children h c hc
      exact ih c hc hw q hq

theorem writable_of_lower {p : Payload} (hp : p.Faultless) {v : Value} (h : p.lower = .ok v) : p.Writable where
  faultless := hp
  keys k hk := by
    obtain ⟨q, hq, hk⟩ := mem_keys_iff.1 hk
    obtain ⟨w, hw⟩ := lower_parts p h q hq
    exact isKey_of_lower hw k hk
  spelled name fields mark hmem hmark := by
    obtain ⟨w, hw⟩ := lower_parts p h _ hmem
    exact spelled_of_lower hmark hw

/-! ## Writing -/

theorem Writable.not_unwritable {p : Payload} {e : EncodeError} (h : p.Writable) : ¬p.Unwritable e := by
  intro he
  cases he with
  | fault first =>
    obtain ⟨q, hq, hfault⟩ := List.exists_of_findSome?_eq_some first
    rw [h.faultless q hq] at hfault
    cases hfault
  | key _ mem unshown => exact unshown (h.keys _ mem)
  | spelling _ mem marked report =>
    obtain ⟨v, hv⟩ := (markedValue_eq_ok_iff _).2 (h.spelled _ _ _ mem marked)
    rw [hv] at report
    cases report

theorem toValue_eq_ok_iff {p : Payload} {v : Value} : p.toValue = .ok v ↔ p.Faultless ∧ p.lower = .ok v := by
  rw [← firstFault_eq_none_iff, toValue]
  cases p.firstFault <;> simp

theorem unwritable_of_encode {sortKeys : Bool} {p : Payload} {e : EncodeError} (h : p.encode sortKeys = .error e) :
    p.Unwritable e := by
  rw [encode, map_eq_error_iff, toValue] at h
  cases hfault : p.firstFault with
  | some f =>
    rw [hfault] at h
    cases h
    exact .fault (firstFault_eq_findSome? p ▸ hfault)
  | none =>
    rw [hfault] at h
    exact unwritable_of_lower p (firstFault_eq_none_iff.1 hfault) h

theorem exists_encode_iff (sortKeys : Bool) (p : Payload) : (∃ text, p.encode sortKeys = .ok text) ↔ p.Writable := by
  constructor
  · rintro ⟨text, h⟩
    obtain ⟨v, hv, -⟩ := exists_of_map_eq_ok h
    obtain ⟨hp, hlower⟩ := toValue_eq_ok_iff.1 hv
    exact writable_of_lower hp hlower
  · intro hp
    cases h : p.encode sortKeys with
    | ok text => exact ⟨text, rfl⟩
    | error e => exact absurd (unwritable_of_encode h) hp.not_unwritable

/-- **A payload is written exactly if nothing stands in the way of any part of it**, and the error of another says what
does: the first fault in the order of writing, and if there is none a key that is not shown or a record under a mark that
is not spelled. -/
theorem encode_iff_writable (sortKeys : Bool) (p : Payload) :
    ((∃ text, p.encode sortKeys = .ok text) ↔ p.Writable) ∧
      ∀ e, p.encode sortKeys = .error e → p.Unwritable e :=
  ⟨exists_encode_iff sortKeys p, fun _ h => unwritable_of_encode h⟩

/-- A record under the mark of a number with a number in it. -/
def markedInteger : Payload := record Json.numberKey [(Json.numberKey, integer 5)]

/-- It has no float, no failing data and no key, and yet it is not written. -/
theorem encode_markedInteger :
    markedInteger.Faultless ∧ markedInteger.keys = [] ∧
      markedInteger.encode false = .error (.badSpelling "invalid number") :=
  ⟨by simp [markedInteger, Faultless, parts, partsOfFields, ownFault?],
    by simp [markedInteger, keys, parts, partsOfFields, ownKeys], rfl⟩

end Payload

end ConfigService
