import ConfigService.Json.Literal
import ConfigService.Json.Printer
/-!
# Literal — a written string is read back

A string is written character by character, and each character is written so that the reader takes just it
(`readLiteralFrom_escape`).  So a literal is read back whatever text follows it (`readLiteral_literal`), and it shows by
itself where it ends (`literal_append_inj`).
-/
namespace ConfigService

namespace Text

def ofChars (cs : List Char) : Text := cs.map .char

@[simp] theorem ofChars_nil : ofChars [] = [] := rfl

@[simp] theorem ofChars_cons (c : Char) (cs : List Char) : ofChars (c :: cs) = .char c :: ofChars cs := rfl

@[simp] theorem ofChars_append (cs ds : List Char) : ofChars (cs ++ ds) = ofChars cs ++ ofChars ds := List.map_append

@[simp] theorem length_ofChars (cs : List Char) : (ofChars cs).length = cs.length := List.length_map _

theorem ofString_ofList (cs : List Char) : ofString (String.ofList cs) = ofChars cs := by
  rw [ofString, String.toList_ofList, ofChars]

theorem ofChars_inj {cs ds : List Char} : ofChars cs = ofChars ds ↔ cs = ds :=
  List.map_inj_right fun _ _ h => Symbol.char.inj h

end Text

namespace Json

/-! ## One character -/

theorem hexValue?_hexDigit : ∀ n < 16, hexValue? (.char (hexDigit n)) = some n := by decide

theorem readUnit_hexDigits {n : Nat} (h : n < 256) (rest : Text) :
    readUnit (.char '0' :: .char '0' :: .char (hexDigit (n / 16)) :: .char (hexDigit (n % 16)) :: rest) =
      .ok (n, rest) := by
  have h0 : hexValue? (.char '0') = some 0 := rfl
  simp only [readUnit, h0, hexValue?_hexDigit (n / 16) (by omega), hexValue?_hexDigit (n % 16) (by omega),
    Except.ok.injEq, Prod.mk.injEq, and_true]
  omega

/-- An escape of the form `\u` that spells a control character is read as it. -/
theorem readEscape_control {c : Char} (h : c.toNat < 0x20) (rest : Text) :
    readEscape (.char 'u' :: .char '0' :: .char '0' :: .char (hexDigit (c.toNat / 16)) ::
      .char (hexDigit (c.toNat % 16)) :: rest) = .ok (c, 5) := by
  have hl : isLowHalf c.toNat = false := by simp [isLowHalf]; omega
  have hh : isHighHalf c.toNat = false := by simp [isHighHalf]; omega
  rw [readEscape, readUnit_hexDigits (by omega)]
  simp [hl, hh]

/-- **A character is read back** from the way it is written, and nothing after it is touched. -/
theorem readLiteralFrom_escape (c : Char) (read : List Char) (rest : Text) :
    readLiteralFrom 0 read none (Text.ofChars (escape c) ++ rest) = readLiteralFrom 0 (c :: read) none rest := by
  unfold escape
  split
  · next h => subst h; rfl
  split
  · next h => subst h; rfl
  split
  · next hc =>
    have byCode : ∀ d : Char, c.toNat = d.toNat → c = d := fun d h => Char.toNat_inj.1 h
    split
    · next h => cases byCode '\x08' h; rfl
    split
    · next h => cases byCode '\t' h; rfl
    split
    · next h => cases byCode '\n' h; rfl
    split
    · next h => cases byCode '\x0C' h; rfl
    split
    · next h => cases byCode '\r' h; rfl
    · simp only [Text.ofChars_cons, Text.ofChars_nil, List.cons_append, List.nil_append]
      rw [readLiteralFrom, if_neg (by decide), if_pos rfl, readEscape_control hc]
      rfl
  · next hq hb hc =>
    simp only [Text.ofChars_cons, Text.ofChars_nil, List.cons_append, List.nil_append]
    rw [readLiteralFrom, if_neg hq, if_neg hb, if_neg hc]
    rfl

/-! ## Unit by unit -/

theorem readLiteralFrom_skip (read : List Char) (bad : Option Nat) (rest : Text) : ∀ v : Text,
    readLiteralFrom v.length read bad (v ++ rest) = readLiteralFrom 0 read bad rest
  | [] => rfl
  | s :: v => by
    rw [List.length_cons, List.cons_append]
    show readLiteralFrom v.length read bad (v ++ rest) = _
    exact readLiteralFrom_skip read bad rest v

section Units

variable (read : List Char) (bad : Option Nat)

theorem readLiteralFrom_char (c : Char) (t : Text) :
    readLiteralFrom 0 read bad (.char c :: t) =
      if c = '"' then
        match bad with
        | none => .ok (String.ofList read.reverse, t)
        | some bytes => .error ⟨.invalidCodePoint, .left (Text.width t + bytes), none⟩
      else if c = '\\' then
        match readEscape t with
        | .error f => .error f
        | .ok (e, skip) => readLiteralFrom skip (e :: read) (bad.map (· + e.utf8Size)) t
      else if c.toNat < 0x20 then .error (faultAt .controlCharacter (.char c :: t))
      else readLiteralFrom 0 (c :: read) (bad.map (· + c.utf8Size)) t := by
  exact readLiteralFrom.eq_def 0 read bad (.char c :: t)

/-- One escape of a literal, and then what is after it. -/
theorem readLiteralFrom_backslash {c : Char} {v rest : Text} (h : readEscape (v ++ rest) = .ok (c, v.length)) :
    readLiteralFrom 0 read bad (.char '\\' :: (v ++ rest)) =
      readLiteralFrom 0 (c :: read) (bad.map (· + c.utf8Size)) rest := by
  rw [readLiteralFrom_char, if_neg (by decide), if_pos rfl, h]
  exact readLiteralFrom_skip _ _ rest v

theorem readLiteralFrom_plain {c : Char} (hq : c ≠ '"') (hb : c ≠ '\\') (hc : ¬c.toNat < 0x20) (t : Text) :
    readLiteralFrom 0 read bad (.char c :: t) = readLiteralFrom 0 (c :: read) (bad.map (· + c.utf8Size)) t := by
  rw [readLiteralFrom_char, if_neg hq, if_neg hb, if_neg hc]

end Units

theorem passLiteralFrom_skip (rest : Text) : ∀ v : Text, passLiteralFrom v.length (v ++ rest) = passLiteralFrom 0 rest
  | [] => rfl
  | s :: v => by
    rw [List.length_cons, List.cons_append]
    exact passLiteralFrom_skip rest v

theorem passLiteralFrom_char (c : Char) (t : Text) :
    passLiteralFrom 0 (.char c :: t) =
      if c = '"' then .ok t
      else if c = '\\' then
        match passEscape t with
        | .error f => .error f
        | .ok skip => passLiteralFrom skip t
      else if c.toNat < 0x20 then .error (faultHere .controlCharacter (.char c :: t))
      else passLiteralFrom 0 t := by
  exact passLiteralFrom.eq_def 0 (.char c :: t)

theorem passLiteralFrom_backslash {v rest : Text} (h : passEscape (v ++ rest) = .ok v.length) :
    passLiteralFrom 0 (.char '\\' :: (v ++ rest)) = passLiteralFrom 0 rest := by
  rw [passLiteralFrom_char, if_neg (by decide), if_pos rfl, h]
  exact passLiteralFrom_skip rest v

theorem passLiteralFrom_plain {c : Char} (hq : c ≠ '"') (hb : c ≠ '\\') (hc : ¬c.toNat < 0x20) (t : Text) :
    passLiteralFrom 0 (.char c :: t) = passLiteralFrom 0 t := by
  rw [passLiteralFrom_char, if_neg hq, if_neg hb, if_neg hc]

/-! ## The whole literal -/

theorem readLiteralFrom_escaped (cs : List Char) :
    ∀ (read : List Char) (rest : Text),
      readLiteralFrom 0 read none (Text.ofChars (cs.flatMap escape) ++ .char '"' :: rest) =
        .ok (String.ofList (read.reverse ++ cs), rest) := by
  induction cs with
  | nil =>
    intro read rest
    rw [List.append_nil]
    rfl
  | cons c cs ih =>
    intro read rest
    rw [List.flatMap_cons, Text.ofChars_append, List.append_assoc, readLiteralFrom_escape, ih]
    simp

/-- **A literal is read back**, from after its opening quote and whatever follows it. -/
theorem readLiteral_literal (s : String) (rest : Text) :
    readLiteral (Text.ofChars (s.toList.flatMap escape ++ ['"']) ++ rest) = .ok (s, rest) := by
  rw [readLiteral, Text.ofChars_append, List.append_assoc]
  have h := readLiteralFrom_escaped s.toList [] rest
  rw [List.reverse_nil, List.nil_append, String.ofList_toList] at h
  exact h

/-- **A literal shows where it ends**: texts that begin with literals have the same one and go on alike. -/
theorem literal_append_inj {s t : String} {cs ds : List Char} (h : literal s ++ cs = literal t ++ ds) :
    s = t ∧ cs = ds := by
  simp only [literal, List.cons_append, List.cons.injEq, true_and] at h
  have hs := readLiteral_literal s (Text.ofChars cs)
  rw [← Text.ofChars_append, h, Text.ofChars_append, readLiteral_literal t] at hs
  simp only [Except.ok.injEq, Prod.mk.injEq, Text.ofChars_inj] at hs
  exact ⟨hs.1.symm, hs.2.symm⟩

end Json
end ConfigService
