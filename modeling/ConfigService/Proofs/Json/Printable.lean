import ConfigService.Proofs.Json.Proper
import ConfigService.Proofs.Json.RoundTrip
/-!
# Printable — a written value holds no control character

Control characters stand in strings only, and there each of them is written by an escape.  So a written value is one line.
-/
namespace ConfigService
namespace Json

/-- No character is below the blank. -/
def Printable (cs : List Char) : Prop := ∀ c ∈ cs, 0x20 ≤ c.toNat

instance (cs : List Char) : Decidable (Printable cs) := List.decidableBAll (fun c : Char => 0x20 ≤ c.toNat) cs

variable {cs ds : List Char}

theorem printable_append (hc : Printable cs) (hd : Printable ds) : Printable (cs ++ ds) :=
  List.forall_mem_append.2 ⟨hc, hd⟩

theorem printable_cons {c : Char} (hc : 0x20 ≤ c.toNat) (hd : Printable ds) : Printable (c :: ds) :=
  List.forall_mem_cons.2 ⟨hc, hd⟩

theorem printable_of_digits (h : ∀ c ∈ cs, c.isDigit = true) : Printable cs := by
  intro c hc
  have hd := h c hc
  rw [Char.isDigit, Bool.and_eq_true, decide_eq_true_eq] at hd
  exact Nat.le_trans (by decide) hd.1

theorem le_toNat_hexDigit : ∀ n < 16, 0x20 ≤ (hexDigit n).toNat := by decide

theorem printable_escape (c : Char) : Printable (escape c) := by
  unfold escape
  split
  · decide
  split
  · decide
  split
  · next hc =>
    have hhigh := le_toNat_hexDigit (c.toNat / 16) (by omega)
    have hlow := le_toNat_hexDigit (c.toNat % 16) (by omega)
    split
    · decide
    split
    · decide
    split
    · decide
    split
    · decide
    split
    · decide
    · have hmark : Printable ['\\', 'u', '0', '0'] := by decide
      exact printable_append hmark (printable_cons hhigh (printable_cons hlow (by decide)))
  · next hc => exact printable_cons (Nat.le_of_not_lt hc) (by decide)

theorem printable_literal (s : String) : Printable (literal s) := by
  refine printable_cons (by decide) (printable_append (fun c hc => ?_) (by decide))
  obtain ⟨d, -, hd⟩ := List.mem_flatMap.1 hc
  exact printable_escape d c hd

theorem printable_text {n : Numeral} (hn : n.Proper) : Printable n.text := by
  rw [Numeral.text_eq]
  refine printable_append ?_ (printable_append ?_ (printable_append ?_ ?_))
  · split <;> decide
  · exact printable_of_digits fun c h => hn.digits c (List.mem_append_left _ h)
  · unfold fractionText
    split
    · decide
    · exact printable_cons (by decide) (printable_of_digits fun c h => hn.digits c (List.mem_append_right _ h))
  · cases he : n.exponent with
    | none => exact fun _ h => absurd h List.not_mem_nil
    | some e =>
      have hdigits := printable_of_digits (hn.exponent e he).2
      refine printable_cons (by decide) ?_
      split <;> exact printable_cons (by decide) hdigits

theorem printable_commaSeparated : ∀ {ts : List (List Char)}, (∀ t ∈ ts, Printable t) → Printable (commaSeparated ts)
  | [], _ => fun _ h => absurd h List.not_mem_nil
  | [t], h => h t List.mem_cons_self
  | t :: u :: ts, h => by
    obtain ⟨ht, hts⟩ := List.forall_mem_cons.1 h
    exact printable_append ht (printable_cons (by decide) (printable_commaSeparated hts))

/-- **A written value is printable.** -/
theorem Value.printable_print (sortKeys : Bool) {v : Value} (h : v.Lawful) : Printable (v.print sortKeys) := by
  rw [print_eq]
  have h := lawful_arranged sortKeys h
  generalize v.arranged sortKeys = v at h ⊢
  induction v using induct with
  | null => decide
  | bool b => cases b <;> decide
  | number n =>
    cases h with
    | number proper => exact printable_text proper
  | string s => exact printable_literal s
  | timestamp t =>
    rw [print_timestamp]
    exact printable_literal _
  | array items ih =>
    cases h with
    | array lawful =>
      rw [print_array]
      refine printable_cons (by decide) (printable_append (printable_commaSeparated fun t ht => ?_) (by decide))
      obtain ⟨w, hw, rfl⟩ := List.mem_map.1 ht
      exact ih w hw (lawful w hw)
  | object members ih =>
    cases h with
    | object nodup lawful =>
      rw [print_object_entries]
      refine printable_cons (by decide) (printable_append (printable_commaSeparated fun t ht => ?_) (by decide))
      obtain ⟨m, hm, rfl⟩ := List.mem_map.1 ht
      exact printable_append (printable_literal m.1) (printable_cons (by decide) (ih m hm (lawful m hm)))

end Json
end ConfigService
