import ConfigService.Payload.Direct
import ConfigService.Proofs.Json.RoundTrip
import ConfigService.Proofs.Payload.Writable
/-!
# Direct — the value in between changes nothing

The text of a payload is made by way of a value, and it is the text that a single pass over the payload writes
(`written?_lowered`), with entries under one key collapsed and marked records written anew.  Where no key comes twice, and
what marked records hold is compact text, these make no difference either (`written?_of_plain`).
-/
namespace ConfigService

namespace Payload

open Json

/-! ## Scalars and keys -/

theorem finiteText?_of_ofValue {layout : Positional} {v : BinaryValue} {n : Numeral}
    (h : Numeral.ofValue layout v = .ok n) : finiteText? layout v = .some n.text := by
  rw [finiteText?, h]
  rfl

theorem writtenKey?_of_keyText (k : Payload) : ∀ {s : String}, keyText k = .ok s → writtenKey? k = .some s := by
  have hfloat : ∀ {layout v s}, floatText layout v = .ok s → (finiteText? layout v).map String.ofList = .some s := by
    intro layout v s h
    obtain ⟨n, hn, rfl⟩ := exists_of_map_eq_ok h
    rw [finiteText?_of_ofValue hn]
    rfl
  induction k using induct with
  | step k ih =>
    intro s h
    cases k with
    | bool b => cases b <;> cases h <;> rfl
    | float32 bits => exact hfloat h
    | float64 bits => exact hfloat h
    | wrapped name p => exact ih p List.mem_cons_self h
    | value v =>
      cases v with
      | bool b => cases b <;> cases h <;> rfl
      | _ => cases h <;> rfl
    | _ => cases h <;> rfl

theorem finiteText?_ne_null {layout : Positional} (hl : layout.high < 17) {v : BinaryValue} (hv : v.fault? = .none) :
    (finiteText? layout v).getD nullText ≠ nullText := by
  obtain ⟨n, hn⟩ := ofValue_eq_ok layout hv
  -- a numeral begins with a digit or a sign
  obtain ⟨c, cs, htext, hc⟩ := exists_text_eq_cons (proper_ofValue hl hn)
  rw [finiteText?_of_ofValue hn, Option.getD_some, htext]
  intro h
  cases (List.cons.inj (h.trans (by decide : nullText = ['n', 'u', 'l', 'l']))).1
  rcases hc with hc | hc <;> exact absurd hc (by decide)

/-! ## Containers -/

theorem print_array_eq (sortKeys : Bool) (items : List Value) :
    (Value.array items).print sortKeys = arrayText (items.map (Value.print sortKeys)) :=
  Value.print_array sortKeys items

/-- Collapsing and sorting look at the keys only, so they may wait until the values are written. -/
theorem print_collapsed (sortKeys : Bool) (members : List (String × Value)) :
    (Value.object (collapse members)).print sortKeys =
      objectText ((Style.lowered sortKeys).arrange (mapValues (Value.print sortKeys) members)) := by
  cases sortKeys with
  | false =>
    rw [Value.print_object_false, ← collapse_mapValues]
    rfl
  | true =>
    rw [Value.print_object_true, ← collapse_mapValues]
    rfl

theorem print_single (sortKeys : Bool) (key : String) (v : Value) :
    (single key v).print sortKeys = objectText [(key, v.print sortKeys)] := by
  cases sortKeys with
  | false => rfl
  | true =>
    rw [single, Value.print_object_true, sortByKey, mapValues, List.map_singleton, List.mergeSort_singleton]
    rfl

theorem print_spelled (sortKeys : Bool) (v : Value) : v.spelled.print sortKeys = v.print sortKeys := by
  cases sortKeys with
  | false => exact Value.print_spelled v
  | true => rw [Value.print_true, ← Value.spelled_sorted, Value.print_spelled, ← Value.print_true]

/-- All strings in a marked record are read, and the last is what it stands for. -/
theorem heldStrings?_of_markedValue {mark : Mark} (fields : List (String × Payload)) :
    ∀ {v : Value}, markedValue mark fields = .ok v →
      ∃ held last, heldStrings? mark fields = .some held ∧ held.getLast? = .some last ∧ mark.read last = .ok v := by
  induction fields with
  | nil => exact fun h => (nomatch h)
  | cons f fields ih =>
    intro v h
    cases fields with
    | nil =>
      obtain ⟨hkey, s, hs, hread⟩ := spelledField_eq_ok_iff.1 h
      exact ⟨[s], s, by simp [heldStrings?, hkey, hs], rfl, hread⟩
    | cons g fields =>
      rw [markedValue_cons_cons] at h
      cases hf : spelledField mark f with
      | error e =>
        rw [hf] at h
        cases h
      | ok w =>
        rw [hf] at h
        obtain ⟨hkey, s, hs, -⟩ := spelledField_eq_ok_iff.1 hf
        obtain ⟨held, last, hheld, hlast, hread⟩ := ih h
        refine ⟨s :: held, last, ?_, ?_, hread⟩
        · rw [heldStrings?, if_pos hkey, hs, hheld]
          rfl
        · rw [List.getLast?_cons, hlast]
          rfl

theorem markedText?_of_markedValue {mark : Mark} {fields : List (String × Payload)} {v : Value} (sortKeys : Bool)
    (h : markedValue mark fields = .ok v) :
    markedText? (.lowered sortKeys) mark fields = .some (v.print sortKeys) := by
  obtain ⟨held, last, hheld, hlast, hread⟩ := heldStrings?_of_markedValue fields h
  rw [markedText?, hheld, Option.bind_some, Style.lowered, if_pos rfl, hlast, Option.bind_some, hread]
  rfl

/-! ## Lists -/

section Lists

variable {s : Style} {sortKeys : Bool}

theorem writtenItems?_eq_some {items : List Payload} {vs : List Value} (h : lowerItems items = .ok vs)
    (hitems : ∀ p ∈ items, ∀ v, p.lower = .ok v → p.written? s = .some (v.print sortKeys)) :
    writtenItems? s items = .some (vs.map (Value.print sortKeys)) := by
  rw [lowerItems_eq_mapM, mapM_eq_ok_iff] at h
  induction h with
  | nil => rfl
  | cons hp _ ih =>
    obtain ⟨hfirst, hrest⟩ := List.forall_mem_cons.1 hitems
    rw [writtenItems?, hfirst _ hp, ih hrest]
    rfl

theorem writtenEntries?_eq_some {entries : List (Payload × Payload)} {ms : List (String × Value)}
    (h : lowerEntries entries = .ok ms)
    (hentries : ∀ e ∈ entries, ∀ v, e.2.lower = .ok v → e.2.written? s = .some (v.print sortKeys)) :
    writtenEntries? s entries = .some (mapValues (Value.print sortKeys) ms) := by
  rw [lowerEntries_eq_mapM, mapM_eq_ok_iff] at h
  induction h with
  | nil => rfl
  | @cons e m _ _ he _ ih =>
    obtain ⟨hfirst, hrest⟩ := List.forall_mem_cons.1 hentries
    obtain ⟨hkey, hval⟩ := memberOfEntry_eq_ok_iff.1 he
    rw [writtenEntries?, writtenKey?_of_keyText _ hkey, hfirst _ hval, ih hrest]
    rfl

theorem writtenFields?_eq_some {fields : List (String × Payload)} {ms : List (String × Value)}
    (h : lowerFields fields = .ok ms)
    (hfields : ∀ f ∈ fields, ∀ v, f.2.lower = .ok v → f.2.written? s = .some (v.print sortKeys)) :
    writtenFields? s fields = .some (mapValues (Value.print sortKeys) ms) := by
  rw [lowerFields_eq_mapM, mapM_eq_ok_iff] at h
  induction h with
  | nil => rfl
  | @cons f m _ _ hf _ ih =>
    obtain ⟨hfirst, hrest⟩ := List.forall_mem_cons.1 hfields
    obtain ⟨hkey, hval⟩ := memberOfField_eq_ok_iff.1 hf
    rw [writtenFields?, hfirst _ hval, ih hrest, hkey]
    rfl

end Lists

/-! ## By way of a value -/

/-- **The value of a payload is written as the payload is.** -/
theorem written?_lowered (sortKeys : Bool) (p : Payload) :
    ∀ v, p.lower = .ok v → p.written? (.lowered sortKeys) = .some (v.print sortKeys) := by
  induction p using induct with
  | step p ih =>
    intro v h
    cases p with
    | bool b => cases b <;> cases h <;> rfl
    | float32 bits =>
      obtain ⟨n, hn, rfl⟩ := exists_of_map_eq_ok h
      rw [written?, finiteText?_of_ofValue hn]
      rfl
    | float64 bits =>
      obtain ⟨n, hn, rfl⟩ := exists_of_map_eq_ok h
      rw [written?, finiteText?_of_ofValue hn]
      rfl
    | bytes bs =>
      cases h
      rw [print_array_eq, List.map_map]
      rfl
    | some p => exact ih p List.mem_cons_self v h
    | wrapped name p => exact ih p List.mem_cons_self v h
    | wrappedVariant sum variant p =>
      obtain ⟨w, hw, rfl⟩ := exists_of_map_eq_ok h
      rw [written?, ih p List.mem_cons_self w hw, print_single]
      rfl
    | sequence items | tuple items | namedTuple name items =>
      obtain ⟨vs, hvs, rfl⟩ := exists_of_map_eq_ok h
      rw [written?, writtenItems?_eq_some hvs ih, print_array_eq]
      rfl
    | tupleVariant sum variant items =>
      obtain ⟨vs, hvs, rfl⟩ := exists_of_map_eq_ok h
      rw [written?, writtenItems?_eq_some hvs ih, print_single, print_array_eq]
      rfl
    | map entries =>
      obtain ⟨ms, hms, rfl⟩ := exists_of_map_eq_ok h
      rw [written?, writtenEntries?_eq_some hms fun e he => ih e.2 (value_mem_children he), print_collapsed]
      rfl
    | record name fields =>
      rw [lower] at h
      rw [written?]
      cases hmark : mark? name with
      | some mark =>
        rw [hmark] at h
        exact markedText?_of_markedValue sortKeys h
      | none =>
        rw [hmark] at h
        obtain ⟨ms, hms, rfl⟩ := exists_of_map_eq_ok h
        simp only
        rw [writtenFields?_eq_some hms fun f hf => ih f.2 (List.mem_map_of_mem hf), print_collapsed]
        rfl
    | recordVariant sum variant fields =>
      obtain ⟨ms, hms, rfl⟩ := exists_of_map_eq_ok h
      rw [written?, writtenFields?_eq_some hms fun f hf => ih f.2 (List.mem_map_of_mem hf), print_single, print_collapsed]
      rfl
    | value w =>
      cases h
      rw [written?, print_spelled]
      rfl
    | fail message => cases h
    | _ =>
      cases h
      rfl

/-! ## Payloads that leave no choice -/

theorem Plain.of_child {p c : Payload} (h : p.Plain) (hc : c ∈ p.children) : c.Plain where
  entries entries hq := h.entries entries (mem_parts_of_child hc hq)
  fields name fields hq := h.fields name fields (mem_parts_of_child hc hq)
  variantFields sum variant fields hq := h.variantFields sum variant fields (mem_parts_of_child hc hq)
  marked name fields mark hq := h.marked name fields mark (mem_parts_of_child hc hq)

section Styles

variable {s s' : Style}

theorem writtenItems?_congr (items : List Payload) (h : ∀ p ∈ items, p.written? s = p.written? s') :
    writtenItems? s items = writtenItems? s' items := by
  induction items with
  | nil => rfl
  | cons p ps ih =>
    obtain ⟨hfirst, hrest⟩ := List.forall_mem_cons.1 h
    rw [writtenItems?, writtenItems?, hfirst, ih hrest]

theorem writtenEntries?_congr {entries : List (Payload × Payload)}
    (h : ∀ e ∈ entries, e.2.written? s = e.2.written? s') : writtenEntries? s entries = writtenEntries? s' entries := by
  induction entries with
  | nil => rfl
  | cons e es ih =>
    obtain ⟨hfirst, hrest⟩ := List.forall_mem_cons.1 h
    rw [writtenEntries?, writtenEntries?, hfirst, ih hrest]

theorem writtenFields?_congr {fields : List (String × Payload)}
    (h : ∀ f ∈ fields, f.2.written? s = f.2.written? s') : writtenFields? s fields = writtenFields? s' fields := by
  induction fields with
  | nil => rfl
  | cons f fs ih =>
    obtain ⟨hfirst, hrest⟩ := List.forall_mem_cons.1 h
    rw [writtenFields?, writtenFields?, hfirst, ih hrest]

/-! What is asked of the keys of a map is asked before they are written. -/

theorem map_fst_writtenEntries? {entries : List (Payload × Payload)} :
    ∀ {ms}, writtenEntries? s entries = .some ms →
      entries.map (fun e => writtenKey? e.1) = (ms.map Prod.fst).map Option.some := by
  induction entries with
  | nil =>
    intro ms h
    cases h
    rfl
  | cons e es ih =>
    intro ms h
    simp only [writtenEntries?, Option.bind_eq_some_iff, Option.map_eq_some_iff] at h
    obtain ⟨key, hkey, t, -, rest, hrest, rfl⟩ := h
    rw [List.map_cons, hkey, ih hrest]
    rfl

theorem map_fst_writtenFields? {fields : List (String × Payload)} :
    ∀ {ms}, writtenFields? s fields = .some ms → fields.map Prod.fst = ms.map Prod.fst := by
  induction fields with
  | nil =>
    intro ms h
    cases h
    rfl
  | cons f fs ih =>
    intro ms h
    simp only [writtenFields?, Option.bind_eq_some_iff, Option.map_eq_some_iff] at h
    obtain ⟨t, -, rest, hrest, rfl⟩ := h
    rw [List.map_cons, ih hrest]
    rfl

end Styles

/-- Where each key comes once there is nothing to collapse. -/
theorem arrange_standard {α : Type} {ms : List (String × α)} (h : (ms.map Prod.fst).Nodup) :
    Style.standard.arrange ms = (Style.lowered false).arrange ms := (collapse_eq_self h).symm

theorem arrange_entries {entries : List (Payload × Payload)} (h : (entries.map fun e => writtenKey? e.1).Nodup)
    {ms : List (String × List Char)} (hms : writtenEntries? (.lowered false) entries = .some ms) :
    Style.standard.arrange ms = (Style.lowered false).arrange ms := by
  rw [map_fst_writtenEntries? hms] at h
  exact arrange_standard (List.Pairwise.of_map Option.some (fun _ _ hne hab => hne (congrArg Option.some hab)) h)

theorem arrange_fields {fields : List (String × Payload)} (h : (fields.map Prod.fst).Nodup)
    {ms : List (String × List Char)} (hms : writtenFields? (.lowered false) fields = .some ms) :
    Style.standard.arrange ms = (Style.lowered false).arrange ms := by
  rw [map_fst_writtenFields? hms] at h
  exact arrange_standard h

/-- **A payload that leaves no choice is written as JSON is by default.** -/
theorem written?_of_plain (p : Payload) (hp : p.Plain) : p.written? .standard = p.written? (.lowered false) := by
  induction p using induct with
  | step p ih =>
    replace ih : ∀ c ∈ p.children, c.written? .standard = c.written? (.lowered false) :=
      fun c hc => ih c hc (hp.of_child hc)
    have hself := mem_parts_self p
    cases p with
    | some p => exact ih p List.mem_cons_self
    | wrapped name p => exact ih p List.mem_cons_self
    | wrappedVariant sum variant p => rw [written?, written?, ih p List.mem_cons_self]
    | sequence items | tuple items | namedTuple name items => rw [written?, written?, writtenItems?_congr items ih]
    | tupleVariant sum variant items => rw [written?, written?, writtenItems?_congr items ih]
    | map entries =>
      rw [written?, written?, writtenEntries?_congr fun e he => ih e.2 (value_mem_children he)]
      refine Option.map_congr fun ms hms => ?_
      rw [arrange_entries (hp.entries entries hself) hms]
    | record name fields =>
      rw [written?, written?]
      cases hmark : mark? name with
      | some mark => exact hp.marked name fields mark hself hmark
      | none =>
        simp only
        rw [writtenFields?_congr fun f hf => ih f.2 (List.mem_map_of_mem hf)]
        refine Option.map_congr fun ms hms => ?_
        rw [arrange_fields (hp.fields name fields hself hmark) hms]
    | recordVariant sum variant fields =>
      rw [written?, written?, writtenFields?_congr fun f hf => ih f.2 (List.mem_map_of_mem hf)]
      refine Option.map_congr fun ms hms => ?_
      rw [arrange_fields (hp.variantFields sum variant fields hself) hms]
    | _ => rfl

/-! ## Writing -/

theorem floatsWritten_of_faultless {p : Payload} (hp : p.Faultless) : p.FloatsWritten := by
  intro q hq hfloat s hnull
  cases q with
  | float32 bits => exact finiteText?_ne_null (by decide) (hp _ hq) (Option.some.inj hnull)
  | float64 bits => exact finiteText?_ne_null (by decide) (hp _ hq) (Option.some.inj hnull)
  | _ => exact hfloat

theorem written?_of_encode {p : Payload} {sortKeys : Bool} {text : String} (h : p.encode sortKeys = .ok text) :
    p.written? (.lowered sortKeys) = .some text.toList := by
  obtain ⟨v, hv, rfl⟩ := exists_of_map_eq_ok h
  rw [Value.encode_eq, String.toList_ofList]
  exact written?_lowered sortKeys p v (toValue_eq_ok_iff.1 hv).2

/-- **The value in between changes nothing**: the text of a payload that can be written is what a single pass writes, with
entries under one key collapsed.  No float in it becomes null, and it is the text that JSON has by default if no key comes
twice. -/
theorem encode_eq_ok_iff_written (p : Payload) (sortKeys : Bool) (text : String) :
    (p.encode sortKeys = .ok text ↔ p.Writable ∧ p.written? (.lowered sortKeys) = .some text.toList) ∧
      (p.encode sortKeys = .ok text →
        p.FloatsWritten ∧ (sortKeys = false → p.Plain → p.written? .standard = .some text.toList)) := by
  refine ⟨⟨fun h => ⟨(exists_encode_iff sortKeys p).1 ⟨text, h⟩, written?_of_encode h⟩, ?_⟩, fun h => ⟨?_, ?_⟩⟩
  · rintro ⟨hp, hwritten⟩
    obtain ⟨text', h⟩ := (exists_encode_iff sortKeys p).2 hp
    rw [h, String.toList_inj.1 (Option.some.inj ((written?_of_encode h).symm.trans hwritten))]
  · exact floatsWritten_of_faultless ((exists_encode_iff sortKeys p).1 ⟨text, h⟩).faultless
  · rintro rfl hplain
    rw [written?_of_plain p hplain, written?_of_encode h]

/-- One key in two types, and a float. -/
example :
    (record "R" [("m", map [(integer 1, bool true), (string "1", unit)]), ("f", float64 0x3FF8000000000000)]).encode
      false = .ok "\x7b\"m\":\x7b\"1\":null\x7d,\"f\":1.5\x7d" := by
  rfl

/-- A record under the mark of a number whose string is not the text of that number. -/
def largeNumber : Payload := record numberKey [(numberKey, string "1E5")]

/-- It is not copied. -/
theorem encode_largeNumber :
    largeNumber.encode false = .ok "1e+5" ∧ largeNumber.written? ⟨true, false, false⟩ = .some "1E5".toList :=
  ⟨by rfl, by rfl⟩

end Payload

end ConfigService
