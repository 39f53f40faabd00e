import ConfigService.Proofs.Json.Order
import ConfigService.Proofs.Timestamp.Text
/-!
# Spelling — a timestamp is written like the string of its text

No character of a timestamp's text is escaped in a string.  So a text does not tell a timestamp from a string, and
spelling the timestamps of a value leaves its text as it is.
-/
namespace ConfigService
namespace Json

theorem escape_eq_self {c : Char} (h : c.isDigit = true ∨ c ∈ ['-', 'T', ':', 'Z']) : escape c = [c] := by
  have hlow : ¬c.toNat < 0x20 := by
    rcases h with h | h
    · rw [Char.isDigit, Bool.and_eq_true, decide_eq_true_eq] at h
      exact Nat.not_lt.2 (Nat.le_trans (by decide) h.1)
    · simp only [List.mem_cons, List.not_mem_nil, or_false] at h
      rcases h with rfl | rfl | rfl | rfl <;> decide
  have hquote : c ≠ '"' := by
    rintro rfl
    exact absurd h (by decide)
  have hbackslash : c ≠ '\\' := by
    rintro rfl
    exact absurd h (by decide)
  rw [escape, if_neg hquote, if_neg hbackslash, if_neg hlow]

theorem escape_of_mem_text {t : Timestamp} {c : Char} (h : c ∈ t.text) : escape c = [c] := by
  refine escape_eq_self ?_
  simp only [Timestamp.text, List.mem_append, List.mem_cons, List.not_mem_nil, or_false] at h ⊢
  rcases h with (((((h | h | h) | h | h) | h | h) | h | h) | h | h) | h <;>
    first
      | exact .inl (isDigit_of_mem_padded h)
      | exact .inr (by simp [h])

namespace Value

/-- A timestamp is written like the string of its text. -/
theorem print_timestamp (sortKeys : Bool) (t : Timestamp) : (timestamp t).print sortKeys = literal (toString t) := by
  have h : t.text.flatMap escape = t.text := by
    rw [List.flatMap_congr fun c hc => escape_of_mem_text hc]
    simp
  rw [print, literal]
  show _ = '"' :: ((String.ofList t.text).toList.flatMap escape ++ ['"'])
  rw [String.toList_ofList, h]

/-- **Spelling its timestamps does not change how a value is written.** -/
theorem print_spelled (v : Value) : v.spelled.print false = v.print false := by
  induction v using induct with
  | array items ih =>
    have h : items.map (print false ∘ spelled) = items.map (print false) := List.map_congr_left ih
    rw [spelled_array, print_array, print_array, List.map_map, h]
  | object members ih =>
    rw [spelled_object, print_object_false, print_object_false, mapValues_mapValues, mapValues_congr ih]
  | timestamp t =>
    rw [print_timestamp]
    rfl
  | _ => rfl

end Value
end Json
end ConfigService
