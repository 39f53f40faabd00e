import ConfigService.Json.Syntax
import ConfigService.Proofs.Json.SlashedRecord
/-!
# Syntax — the words of a text are taken one by one

Blanks make no difference to whoever looks past them.  A literal is read as what its pieces spell, and fails where half a
pair stands alone (`toOption_readLiteral`); who passes over it does not care.  A number is read in each of its spellings.
-/
namespace ConfigService

namespace Json

/-! ## Blanks -/

theorem isGap_char (b : Blank) : isGap (.char b.char) = true := by cases b <;> rfl

@[simp] theorem skipGap_text (g : Gap) (t : Text) : skipGap (Text.ofChars g.text ++ t) = skipGap t := by
  induction g with
  | nil => rfl
  | cons b g ih =>
    rw [Gap.text, List.map_cons, Text.ofChars_cons, List.cons_append, skipGap, List.dropWhile_cons, if_pos (isGap_char b)]
    exact ih

theorem skipGap_text_nil (g : Gap) : skipGap (Text.ofChars g.text) = [] := by
  have h := skipGap_text g []
  rwa [List.append_nil] at h

theorem endsNumeral_text (g : Gap) {t : Text} (h : EndsNumeral t) : EndsNumeral (Text.ofChars g.text ++ t) := by
  cases g with
  | nil => exact h
  | cons b g =>
    intro s hs
    cases hs
    cases b <;> decide

/-! ## Literals -/

def unitText (a b c d : HexDigit) : Text := [.char a.char, .char b.char, .char c.char, .char d.char]

theorem readUnit_unitText (a b c d : HexDigit) (rest : Text) :
    readUnit (unitText a b c d ++ rest) = .ok (unitOf a b c d, rest) := by
  simp only [unitText, List.cons_append, List.nil_append, readUnit, a.spells, b.spells, c.spells, d.spells]
  rfl

theorem ofChars_unit (a b c d : HexDigit) :
    Text.ofChars (Piece.unit a b c d).text = .char '\\' :: .char 'u' :: unitText a b c d := rfl

theorem Spelled.body_cons (p : Piece) (s : Spelled) : Spelled.body (p :: s) = p.text ++ s.body := by
  rw [body, List.flatMap_cons, List.append_assoc]
  rfl

theorem readEscape_short {letter c : Char} (h : shortEscape? (.char letter) = some c) (rest : Text) :
    readEscape (.char letter :: rest) = .ok (c, 1) := by
  rw [readEscape, h]
  exact (shortEscape?_ne h).2

theorem passEscape_short {letter c : Char} (h : shortEscape? (.char letter) = some c) (rest : Text) :
    passEscape (.char letter :: rest) = .ok 1 := by
  rw [passEscape, h]
  · rfl
  · exact (shortEscape?_ne h).2

/-- After the first half of a pair only an escape of the second half makes a character. -/
theorem toOption_readLowHalf (high : Nat) (s : Spelled) (rest : Text) :
    (readLowHalf high (Text.ofChars s.body ++ rest)).toOption =
      match s.map Piece.meaning with
      | .low l :: _ => some (pairChar high l)
      | _ => none := by
  cases s with
  | nil => rfl
  | cons p s =>
    rw [Spelled.body_cons, Text.ofChars_append, List.append_assoc, List.map_cons]
    cases p with
    | plain c isPlain =>
      simp only [Piece.text, Text.ofChars_cons, Text.ofChars_nil, List.cons_append, List.nil_append, Piece.meaning]
      unfold readLowHalf
      split
      · rfl
      · next heq =>
        cases heq
        exact absurd rfl isPlain.2.1
      · rfl
    | short letter c spells =>
      simp only [Piece.text, Text.ofChars_cons, Text.ofChars_nil, List.cons_append, List.nil_append, Piece.meaning]
      rw [readLowHalf]
      · rfl
      · exact List.cons_ne_nil _ _
      · exact fun _ heq => (shortEscape?_ne spells).2 (List.cons.inj heq).1
    | unit a b c d =>
      rw [ofChars_unit, List.cons_append, List.cons_append, readLowHalf, readUnit_unitText, Piece.meaning]
      by_cases hlow : isLowHalf (unitOf a b c d)
      · simp [Meaning.ofUnit, hlow, Except.toOption]
      · by_cases hhigh : isHighHalf (unitOf a b c d)
        · simp [Meaning.ofUnit, hlow, hhigh, Except.toOption]
        · simp [Meaning.ofUnit, hlow, hhigh, Except.toOption]

/-- Two escapes that name the halves of a pair are read as one. -/
theorem readEscape_pair {a b c d a' b' c' d' : HexDigit} (hlow : ¬isLowHalf (unitOf a b c d))
    (hhigh : isHighHalf (unitOf a b c d)) (hlow' : isLowHalf (unitOf a' b' c' d')) (rest : Text) :
    readEscape ((.char 'u' :: unitText a b c d ++ .char '\\' :: .char 'u' :: unitText a' b' c' d') ++ rest) =
      .ok (pairChar (unitOf a b c d) (unitOf a' b' c' d'), 11) := by
  rw [List.append_assoc, List.cons_append, readEscape, readUnit_unitText]
  simp only [hlow, hhigh, List.cons_append, readLowHalf, readUnit_unitText, hlow']
  rfl

/-- The string of a literal whose characters `cs` are read after others, and the rest. -/
def literalOf (read : List Char) (rest : Text) (cs : List Char) : String × Text := (String.ofList (read.reverse ++ cs), rest)

theorem map_literalOf_cons (c : Char) (read : List Char) (rest : Text) (cs? : Option (List Char)) :
    (cs?.map (c :: ·)).map (literalOf read rest) = cs?.map (literalOf (c :: read) rest) := by
  cases cs? <;> simp [literalOf]

theorem joinPairs_high {ms : List Meaning} (h : ∀ l ms', ms ≠ .low l :: ms') (high : Nat) :
    joinPairs (.high high :: ms) = none := by
  unfold joinPairs
  split
  · next heq => cases heq
  · next heq => cases heq
  · next heq =>
    cases heq
    exact absurd rfl (h _ _)
  · rfl
  · rfl

/-- The first half of a pair that is followed by no second one. -/
theorem toOption_readLiteralFrom_alone {a b c d : HexDigit} {s : Spelled} (rest : Text) (read : List Char)
    (hlow : ¬isLowHalf (unitOf a b c d)) (hhigh : isHighHalf (unitOf a b c d))
    (hs : ∀ l ms, s.map Piece.meaning ≠ .low l :: ms) :
    (readLiteralFrom 0 read none
        (.char '\\' :: (.char 'u' :: unitText a b c d ++ (Text.ofChars s.body ++ rest)))).toOption =
      (joinPairs (.high (unitOf a b c d) :: s.map Piece.meaning)).map (literalOf read rest) := by
  have hhalf := toOption_readLowHalf (unitOf a b c d) s rest
  obtain ⟨f, hf⟩ : ∃ f, readLowHalf (unitOf a b c d) (Text.ofChars s.body ++ rest) = .error f := by
    refine exists_error_of_toOption (hhalf.trans ?_)
    split
    · next heq => exact absurd heq (hs _ _)
    · rfl
  rw [readLiteralFrom_char, if_neg (by decide), if_pos rfl, List.cons_append, readEscape, readUnit_unitText,
    joinPairs_high hs]
  simp only [hlow, hhigh, hf]
  rfl

/-- **A literal is read as what its pieces spell**, and is none if half a pair stands alone in it. -/
theorem toOption_readLiteralFrom (rest : Text) : ∀ (s : Spelled) (read : List Char),
    (readLiteralFrom 0 read none (Text.ofChars (Spelled.body s) ++ rest)).toOption =
      (Spelled.chars? s).map (literalOf read rest)
  | [], read => by
    rw [Spelled.chars?, List.map_nil, joinPairs, Option.map_some, literalOf, List.append_nil]
    rfl
  | .plain c isPlain :: s, read => by
    have ih := toOption_readLiteralFrom rest s (c :: read)
    rw [Spelled.body_cons, Text.ofChars_append, List.append_assoc]
    show (readLiteralFrom 0 read none (.char c :: (Text.ofChars (Spelled.body s) ++ rest))).toOption = _
    rw [readLiteralFrom_plain _ _ isPlain.1 isPlain.2.1 isPlain.2.2, Option.map_none, ih, ← map_literalOf_cons]
    rfl
  | .short letter c spells :: s, read => by
    have ih := toOption_readLiteralFrom rest s (c :: read)
    rw [Spelled.body_cons, Text.ofChars_append, List.append_assoc]
    show (readLiteralFrom 0 read none (.char '\\' :: ([.char letter] ++ (Text.ofChars (Spelled.body s) ++ rest)))).toOption = _
    rw [readLiteralFrom_backslash read none (readEscape_short spells _), Option.map_none, ih, ← map_literalOf_cons]
    rfl
  | .unit a b c d :: s, read => by
    have hunit := readUnit_unitText a b c d (Text.ofChars (Spelled.body s) ++ rest)
    have hcons : Text.ofChars (Spelled.body (.unit a b c d :: s)) ++ rest =
        .char '\\' :: (.char 'u' :: unitText a b c d ++ (Text.ofChars (Spelled.body s) ++ rest)) := by
      rw [Spelled.body_cons, Text.ofChars_append, List.append_assoc, ofChars_unit]
      rfl
    have hmeant : Spelled.chars? (.unit a b c d :: s) = joinPairs (.ofUnit (unitOf a b c d) :: s.map Piece.meaning) := rfl
    rw [hcons, hmeant, Meaning.ofUnit]
    by_cases hlow : isLowHalf (unitOf a b c d)
    · rw [if_pos hlow, joinPairs, readLiteralFrom_char, if_neg (by decide), if_pos rfl, List.cons_append, readEscape, hunit]
      simp [hlow, Except.toOption]
    rw [if_neg hlow]
    by_cases hhigh : isHighHalf (unitOf a b c d)
    · rw [if_pos hhigh]
      -- only the next piece can be the other half
      cases s with
      | nil => exact toOption_readLiteralFrom_alone rest read hlow hhigh (by rintro _ _ ⟨⟩)
      | cons p s =>
        cases p with
        | plain => exact toOption_readLiteralFrom_alone rest read hlow hhigh (by rintro _ _ ⟨⟩)
        | short => exact toOption_readLiteralFrom_alone rest read hlow hhigh (by rintro _ _ ⟨⟩)
        | unit a' b' c' d' =>
          by_cases hlow' : isLowHalf (unitOf a' b' c' d')
          · have ih := toOption_readLiteralFrom rest s (pairChar (unitOf a b c d) (unitOf a' b' c' d') :: read)
            have hpair := readEscape_pair hlow hhigh hlow' (Text.ofChars (Spelled.body s) ++ rest)
            have htail : Text.ofChars (Spelled.body (.unit a' b' c' d' :: s)) ++ rest =
                .char '\\' :: .char 'u' :: unitText a' b' c' d' ++ (Text.ofChars (Spelled.body s) ++ rest) := by
              rw [Spelled.body_cons, Text.ofChars_append, List.append_assoc, ofChars_unit]
            rw [htail, ← List.append_assoc, readLiteralFrom_backslash read none hpair, Option.map_none, ih,
              ← map_literalOf_cons, List.map_cons, Piece.meaning, Meaning.ofUnit, if_pos hlow']
            rfl
          · refine toOption_readLiteralFrom_alone rest read hlow hhigh fun l ms h => ?_
            rw [List.map_cons, Piece.meaning, Meaning.ofUnit, if_neg hlow'] at h
            split at h <;> cases h
    · rw [if_neg hhigh, joinPairs]
      have hescape : readEscape (.char 'u' :: unitText a b c d ++ (Text.ofChars (Spelled.body s) ++ rest)) =
          .ok (Char.ofNat (unitOf a b c d), 5) := by
        rw [List.cons_append, readEscape, hunit]
        simp only [hlow, hhigh]
        rfl
      rw [readLiteralFrom_backslash read none (v := .char 'u' :: unitText a b c d) hescape, Option.map_none,
        toOption_readLiteralFrom rest s (Char.ofNat (unitOf a b c d) :: read), ← map_literalOf_cons]
      rfl

theorem toOption_readLiteral (s : Spelled) (rest : Text) :
    (readLiteral (Text.ofChars s.body ++ rest)).toOption = s.string?.map (·, rest) := by
  rw [readLiteral, toOption_readLiteralFrom, Spelled.string?, Option.map_map]
  rfl

/-- **A literal is passed over**, also if half a pair stands alone in it. -/
theorem passLiteral_body (s : Spelled) (rest : Text) : passLiteral (Text.ofChars s.body ++ rest) = .ok rest := by
  rw [passLiteral]
  induction s with
  | nil => rfl
  | cons p s ih =>
    rw [Spelled.body_cons, Text.ofChars_append, List.append_assoc]
    cases p with
    | plain c isPlain => exact (passLiteralFrom_plain isPlain.1 isPlain.2.1 isPlain.2.2 _).trans ih
    | short letter c spells =>
      exact (passLiteralFrom_backslash (v := [.char letter]) (passEscape_short spells _)).trans ih
    | unit a b c d =>
      have hescape : passEscape (.char 'u' :: unitText a b c d ++ (Text.ofChars (Spelled.body s) ++ rest)) = .ok 5 := by
        rw [List.cons_append, passEscape, readUnit_unitText]
        rfl
      exact (passLiteralFrom_backslash (v := .char 'u' :: unitText a b c d) hescape).trans ih

/-! ## Numbers -/

namespace Figure

variable (f : Figure)

def ending : List Char :=
  match f.numeral.exponent with
  | none => []
  | some e => f.exponentText e

theorem text_eq :
    f.text = (if f.numeral.negative then ['-'] else []) ++ (f.numeral.whole ++ (fractionText f.numeral.fraction ++ f.ending)) := rfl

theorem exists_letter : ∃ c, (c = 'e' ∨ c = 'E') ∧ (if f.capital then 'E' else 'e') = c := by
  cases f.capital with
  | false => exact ⟨'e', .inl rfl, rfl⟩
  | true => exact ⟨'E', .inr rfl, rfl⟩

theorem endsDigits_ending {rest : Text} (hr : EndsNumeral rest) : EndsDigits (Text.ofChars f.ending ++ rest) := by
  unfold ending
  split
  · exact hr.endsDigits
  · obtain ⟨c, hc, hletter⟩ := f.exists_letter
    rw [exponentText, hletter]
    rcases hc with rfl | rfl <;> exact endsDigits_cons rfl _

theorem head?_ending_ne {rest : Text} (hr : EndsNumeral rest) :
    ∀ s ∈ (Text.ofChars f.ending ++ rest).head?, s ≠ .char '.' := by
  unfold ending
  split
  · exact fun s hs => (hr s hs).2.1
  · obtain ⟨c, hc, hletter⟩ := f.exists_letter
    rw [exponentText, hletter]
    intro s hs
    cases hs
    rcases hc with rfl | rfl <;> decide

theorem readSign_exponent (e : Exponent) (hne : e.digits ≠ []) (hd : ∀ c ∈ e.digits, c.isDigit = true) (rest : Text) :
    readSign (Text.ofChars ((if e.negative then ['-'] else if f.plus then ['+'] else []) ++ e.digits) ++ rest) =
      (e.negative, Text.ofChars e.digits ++ rest) := by
  obtain ⟨negative, digits⟩ := e
  cases negative with
  | true => rfl
  | false =>
    cases f.plus with
    | true => rfl
    | false =>
      obtain ⟨c, cs, rfl⟩ := List.exists_cons_of_ne_nil hne
      have hc := hd c List.mem_cons_self
      show readSign (.char c :: (Text.ofChars cs ++ rest)) = (false, .char c :: (Text.ofChars cs ++ rest))
      unfold readSign
      split
      · next heq =>
        cases heq
        exact absurd hc (by decide)
      · next heq =>
        cases heq
        exact absurd hc (by decide)
      · rfl

theorem readExponent_ending (report : DigitReport) {rest : Text} (hr : EndsNumeral rest) :
    readExponent report (Text.ofChars f.ending ++ rest) = .ok (f.numeral.exponent, rest) := by
  unfold ending
  split
  · next hnone =>
    rw [hnone]
    exact readExponent_append report (e := none) (fun _ h => nomatch h) hr
  · next e hsome =>
    obtain ⟨hne, hd⟩ := f.proper.exponent e hsome
    have hsign := f.readSign_exponent e hne hd rest
    have hl := leadingDigits_append hd hr.endsDigits
    have hs := skipDigits_append hd hr.endsDigits
    have hempty : e.digits.isEmpty = false := by simpa using hne
    obtain ⟨c, hc, hletter⟩ := f.exists_letter
    rw [hsome, exponentText, hletter, Text.ofChars_cons, List.cons_append]
    rcases hc with rfl | rfl <;>
    · simp only [readExponent, hsign, hl, hs, hempty]
      rfl

/-- **A number is read in each of its spellings.** -/
theorem readNumeral_text (report : DigitReport) {rest : Text} (hr : EndsNumeral rest) :
    readNumeral report (Text.ofChars f.text ++ rest) = .ok (f.numeral, rest) := by
  simp only [text_eq, Text.ofChars_append, List.append_assoc]
  exact readNumeral_parts report f.proper (f.readExponent_ending report hr) (f.endsDigits_ending hr) (f.head?_ending_ne hr)

theorem exists_text_eq_cons : ∃ c cs, f.text = c :: cs ∧ startsNumber (.char c) = true := by
  obtain ⟨c, cs, hw, hc⟩ := exists_whole_eq_cons f.proper
  rw [text_eq, hw]
  cases f.numeral.negative with
  | true => exact ⟨'-', _, rfl, rfl⟩
  | false =>
    refine ⟨c, _, rfl, ?_⟩
    rw [startsNumber, isDigit, hc, Bool.or_true]

end Figure

end Json
end ConfigService
