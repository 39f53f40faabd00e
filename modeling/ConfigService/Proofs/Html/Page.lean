import ConfigService.Proofs.Config.Document
import ConfigService.Proofs.Json.Printable
import ConfigService.Proofs.Json.SlashedRecord
import ConfigService.Service.Handle
/-!
# Page — the configuration inside a page

The script of a page holds the configuration as JSON text in which no `</` is left, so that nothing in it can end the
script, and which is still read as the configuration.  That it can be done without looking at the text rests on what
`</` is in a JSON text: a part of a string, and never one that goes on with a backslash before it.
-/
namespace ConfigService

namespace Html

theorem escapeScript_cons (c : Char) (cs : List Char) :
    escapeScript (c :: cs) =
      if c = '<' ∧ (escapeScript cs).head? = some '/' then '<' :: '\\' :: escapeScript cs else c :: escapeScript cs := rfl

theorem head?_escapeScript (cs : List Char) : (escapeScript cs).head? = cs.head? := by
  cases cs with
  | nil => rfl
  | cons c cs =>
    rw [escapeScript_cons]
    split
    · next h => rw [h.1]; rfl
    · rfl

/-- **No `</` is left**, also where several `<` stand before the slash. -/
theorem not_infix_escapeScript (cs : List Char) : ¬['<', '/'] <:+: escapeScript cs := by
  induction cs with
  | nil => decide
  | cons c cs ih =>
    rw [escapeScript_cons]
    split
    · rw [List.infix_cons_iff, List.infix_cons_iff, not_or, not_or, List.cons_prefix_cons, List.cons_prefix_cons,
        List.cons_prefix_cons]
      exact ⟨by simp, by simp, ih⟩
    · next h =>
      rw [List.infix_cons_iff, not_or, List.cons_prefix_cons]
      refine ⟨fun ⟨hc, hprefix⟩ => h ⟨hc.symm, ?_⟩, ih⟩
      obtain ⟨rest, hrest⟩ := hprefix
      rw [← hrest]
      rfl

theorem mem_escapeScript {d : Char} {cs : List Char} (h : d ∈ escapeScript cs) : d ∈ cs ∨ d = '\\' := by
  induction cs with
  | nil => exact absurd h List.not_mem_nil
  | cons c cs ih =>
    rw [escapeScript_cons] at h
    split at h
    · next hc =>
      simp only [List.mem_cons] at h ⊢
      rw [hc.1]
      rcases h with h | h | h
      · exact .inl (.inl h)
      · exact .inr h
      · exact (ih h).imp_left .inr
    · rcases List.mem_cons.1 h with h | h
      · exact .inl (List.mem_cons.2 (.inl h))
      · exact (ih h).imp_left (List.mem_cons_of_mem c)

open Json in
/-- Escaping puts a backslash into every `</`. -/
theorem slashed_escapeScript (cs : List Char) : Slashed (Text.ofChars cs) (Text.ofChars (escapeScript cs)) := by
  induction cs with
  | nil => exact .nil
  | cons c cs ih =>
    rw [escapeScript_cons]
    split
    · next h =>
      obtain ⟨rfl, hhead⟩ := h
      rw [head?_escapeScript] at hhead
      obtain ⟨cs, rfl⟩ : ∃ ds, cs = '/' :: ds := List.head?_eq_some_iff.1 hhead
      obtain ⟨w, hw, htail⟩ := ih.of_cons (by decide)
      rw [Text.ofChars_cons, Text.ofChars_cons, Text.ofChars_cons, Text.ofChars_cons, hw]
      exact htail.slash
    · exact ih.cons (.char c)

end Html

namespace Config

open Json

theorem lawful_json : ∀ (k : Kind) (a : k.Carrier), (k.json a).Lawful
  | .text, s => .string s
  | .count, _ => .number (proper_ofInt _)
  | .flag, b => .bool b

theorem lawful_members (c : Config) : (Value.object c.members).Lawful := by
  refine .object c.nodup_members fun m hm => ?_
  rcases mem_members hm with ⟨f, rfl⟩ | rfl
  · exact lawful_json f.kind (c.value f)
  · cases c.updatedAt with
    | none => exact .null
    | some t => exact .string _

theorem printable_configText (sortKeys : Bool) (c : Config) : Printable (c.text sortKeys).toList := by
  rw [text, Value.encode_eq, String.toList_ofList]
  exact Value.printable_print sortKeys c.lawful_members

theorem readKind_follows : ∀ k : Kind, Follows k.read k.read
  | .text => readString_follows
  | .count => readCount_follows
  | .flag => readBool_follows

theorem read_slashed {t u : Text} {c : Config} (ht : Slashed t u) (h : Config.read t = .ok c) : Config.read u = .ok c := by
  have hslots : ∀ slot ∈ shape.slots, ∀ draft, Follows (slot.fill draft) (slot.fill draft) := by
    intro slot hslot draft
    rcases List.mem_append.1 hslot with hslot | hslot
    · obtain ⟨f, -, rfl⟩ := List.mem_map.1 hslot
      exact (plainly_follows (readKind_follows f.kind)).map fun v => { draft with value := setField draft.value f v }
    · rw [List.mem_singleton.1 hslot]
      exact (readOptional_follows readTimestamp_follows).map fun v => { draft with updatedAt := some v }
  obtain ⟨draft, hdraft, rfl⟩ := exists_of_map_eq_ok h
  rw [Config.read, readWholeText_follows (readRecord_follows hslots) ht hdraft]
  rfl

end Config

namespace Page

open Json

theorem suffix_head (p : Page) : "\n        var INITIAL_CONFIG = ".toList <:+ p.head := by
  have hscript : "\n        var INITIAL_CONFIG = ".toList <:+ "</title>\n    <script>\n        var INITIAL_CONFIG = ".toList :=
    ⟨"</title>\n    <script>".toList, rfl⟩
  exact hscript.trans (List.suffix_append _ _)

theorem exists_tail_eq (p : Page) : ∃ rest, p.tail = ';' :: '\n' :: rest := by
  cases p <;> exact ⟨_, rfl⟩

/-- A printable text before the rest of a page is what its line holds, up to the semicolon. -/
theorem takeWhile_tail {cs : List Char} (h : Printable cs) (p : Page) :
    (cs ++ p.tail).takeWhile (· ≠ '\n') = cs ++ [';'] := by
  obtain ⟨rest, hrest⟩ := p.exists_tail_eq
  have hline : ∀ c ∈ cs, (decide (c ≠ '\n')) = true := fun c hc => by
    refine decide_eq_true fun heq => ?_
    have := h c hc
    rw [heq] at this
    exact absurd this (by decide)
  rw [hrest, List.takeWhile_append_of_pos hline]
  rfl

/-- **A configuration in a page cannot end its script, and is read back from it.**  What the page holds between its head
and its tail is all of a line up to the semicolon; and whatever value a JSON text spells, it still spells when it has
been made safe in this way. -/
theorem script_exact :
    (∀ (c : Config) (p : Page) (sortKeys : Bool), ∃ text blob,
      c.encode sortKeys = .ok text ∧ blob = Html.escapeScript text.toList ∧
      Service.pageResponse sortKeys p (.ok c) = .html 200 (String.ofList (p.head ++ blob ++ p.tail)) ∧
      "\n        var INITIAL_CONFIG = ".toList <:+ p.head ∧ (blob ++ p.tail).takeWhile (· ≠ '\n') = blob ++ [';'] ∧
      ¬['<', '/'] <:+: blob ∧ (∀ ch ∈ blob, 0x20 ≤ ch.toNat) ∧ Config.read (Text.ofChars blob) = .ok c) ∧
    ∀ (v w : Value) (sortKeys : Bool), Value.read (Text.ofString (v.encode sortKeys)) = .ok w →
      Value.read (Text.ofChars (Html.escapeScript (v.encode sortKeys).toList)) = .ok w := by
  refine ⟨fun c p sortKeys => ?_, fun v w sortKeys h => ?_⟩
  · have hprintable : Printable (Html.escapeScript (c.text sortKeys).toList) := by
      intro ch hch
      rcases Html.mem_escapeScript hch with hch | rfl
      · exact c.printable_configText sortKeys ch hch
      · decide
    refine ⟨c.text sortKeys, _, c.encode_eq sortKeys, rfl, ?_, p.suffix_head, takeWhile_tail hprintable p,
      Html.not_infix_escapeScript _, hprintable, ?_⟩
    · rw [Service.pageResponse, c.encode_eq]
      rfl
    · exact Config.read_slashed (Html.slashed_escapeScript _) (c.read_text sortKeys)
  · exact Value.read_slashed (Html.slashed_escapeScript _) h

theorem script_exact_endTag :
    Value.read (Text.ofChars (Html.escapeScript ((Value.string "<</a>").encode false).toList)) = .ok (.string "<</a>") := by
  refine script_exact.2 (.string "<</a>") _ false ?_
  rw [Value.encode_eq, Text.ofString_ofList, Value.read, readQuoted_eq]
  rfl

end Page

end ConfigService
