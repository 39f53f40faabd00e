import Mathlib
import ConfigService.Html.ScriptData
import ConfigService.Proofs.Html.Page
/-!
# ScriptData — when the script of a page ends at its end tag

A text without `</` in it can do no more than open comments and begin script tags in them.  So a state of the tokenizer in
such a text is told by how deep it is in comments and by the few characters that it has not made up its mind about
(`Pending`).  A step takes these on, or drops what cannot count any more (`leads_step`), and from that comes where a whole
text leads (`exists_pending`).  After the configuration stands the end tag, which ends the script unless the text has left
a script tag open in a comment; then nothing on the page ends it (`script_end_exact`).
-/
namespace ConfigService
namespace Html

/-! ## Texts from some place on -/

section Texts

variable {c : Char} {cs : List Char} {P : List Char → Prop}

theorem somewhere_cons : Somewhere P (c :: cs) ↔ P (c :: cs) ∨ Somewhere P cs := by
  simp only [Somewhere, List.suffix_cons_iff, or_and_right, exists_or, exists_eq_left]

theorem startsScript_lt {cs : List Char} (h : StartsScript cs) : ∃ rest, cs = '<' :: rest := by
  obtain ⟨name, d, rest, rfl, -⟩ := h
  exact ⟨_, rfl⟩

theorem beginsOpenScript_lt {cs : List Char} (h : BeginsOpenScript cs) : ∃ rest, cs = '<' :: rest := by
  obtain ⟨rest, rfl, -⟩ := h
  exact ⟨_, rfl⟩

/-- What begins with `<` is nowhere in a text without it. -/
theorem not_somewhere (hP : ∀ cs, P cs → ∃ rest, cs = '<' :: rest) (h : '<' ∉ cs) : ¬Somewhere P cs := by
  rintro ⟨rest, hsuffix, hrest⟩
  obtain ⟨after, rfl⟩ := hP rest hrest
  exact h (hsuffix.subset List.mem_cons_self)

theorem not_isAlpha_of_endsTagName (h : endsTagName c = true) : c.isAlpha = false := by
  simp only [endsTagName, isTagSpace, Bool.or_eq_true, decide_eq_true_eq] at h
  rcases h with ((((rfl | rfl) | rfl) | rfl) | rfl) | rfl <;> rfl

theorem ne_of_isAlpha {d : Char} (h : c.isAlpha = true) (hd : d.isAlpha = false) : c ≠ d := by
  rintro rfl
  exact absurd h (by simp [hd])

theorem ne_of_endsTagName {d : Char} (h : endsTagName c = true) (hd : endsTagName d = false) : c ≠ d := by
  rintro rfl
  exact absurd h (by simp [hd])

theorem isAlpha_of_scriptName {name : List Char} (h : name.map Char.toLower = scriptName) :
    ∀ c ∈ name, c.isAlpha = true := by
  intro c hc
  have hletters : scriptName.all Char.isAlpha = true := rfl
  rw [← Char.isAlpha_toLower_eq_isAlpha]
  exact List.all_eq_true.1 hletters _ (h ▸ List.mem_map_of_mem hc)

theorem takeWhile_isAlpha {name : List Char} (hname : ∀ c ∈ name, c.isAlpha = true) (hc : c.isAlpha = false)
    (cs : List Char) : (name ++ c :: cs).takeWhile Char.isAlpha = name := by
  rw [List.takeWhile_append_of_pos hname, List.takeWhile_cons, hc]
  simp

/-- The name of a tag goes as far as there are letters. -/
theorem startsScript_iff {name : List Char} (hname : ∀ c ∈ name, c.isAlpha = true) (hc : c.isAlpha = false) :
    StartsScript ('<' :: (name ++ c :: cs)) ↔ name.map Char.toLower = scriptName ∧ endsTagName c = true := by
  constructor
  · rintro ⟨name', d, rest, heq, hscript, hd⟩
    have htext := (List.cons_eq_cons.1 heq).2
    have hsame := takeWhile_isAlpha hname hc cs
    rw [htext, takeWhile_isAlpha (isAlpha_of_scriptName hscript) (not_isAlpha_of_endsTagName hd) rest] at hsame
    subst hsame
    obtain ⟨rfl, -⟩ := List.cons_eq_cons.1 (List.append_cancel_left htext)
    exact ⟨hscript, hd⟩
  · rintro ⟨hscript, hd⟩
    exact ⟨name, c, cs, rfl, hscript, hd⟩

/-- A name that goes to the end of the text begins no tag. -/
theorem not_startsScript_of_isAlpha {name : List Char} (hname : ∀ c ∈ name, c.isAlpha = true) :
    ¬StartsScript ('<' :: name) := by
  rintro ⟨name', d, rest, heq, -, hd⟩
  have hmem : d ∈ name := by
    rw [(List.cons_eq_cons.1 heq).2]
    exact List.mem_append_right name' List.mem_cons_self
  exact absurd (hname d hmem) (by simp [not_isAlpha_of_endsTagName hd])

theorem not_startsScript (h : c ≠ '<') : ¬StartsScript (c :: cs) := by
  intro hs
  obtain ⟨rest, heq⟩ := startsScript_lt hs
  exact h (List.cons_eq_cons.1 heq).1

theorem not_beginsOpenScript (h : c ≠ '<') : ¬BeginsOpenScript (c :: cs) := by
  intro hs
  obtain ⟨rest, heq⟩ := beginsOpenScript_lt hs
  exact h (List.cons_eq_cons.1 heq).1

end Texts

/-! ## How deep a text is in comments -/

/-- In no comment, in a comment, in a script in a comment. -/
inductive Depth
  | plain
  | escaped
  | doubled
  deriving DecidableEq

/-- From a depth, a text leads into a script in a comment and not out of it again. -/
def Depth.StaysOpen : Depth → List Char → Prop
  | plain, cs => LeavesScriptOpen cs
  | escaped, cs => HoldsScript cs ∨ LeavesScriptOpen cs
  | doubled, cs => ¬['-', '-', '>'] <:+: cs ∨ LeavesScriptOpen cs

section Depth

variable {c : Char} {cs : List Char}

theorem ends_cons (h : ¬['-', '-', '>'] <+: c :: cs) : ['-', '-', '>'] <:+: c :: cs ↔ ['-', '-', '>'] <:+: cs := by
  rw [List.infix_cons_iff, or_iff_right h]

theorem not_ends (h : c ≠ '-') : ¬['-', '-', '>'] <+: c :: cs := by
  rw [List.cons_prefix_cons]
  exact fun hc => h hc.1.symm

/-- What a text holds after a beginning that ends no comment and begins no script tag. -/
theorem holdsScript_cons (hend : ¬['-', '-', '>'] <+: c :: cs) (hstart : ¬StartsScript (c :: cs)) :
    HoldsScript (c :: cs) ↔ HoldsScript cs := by
  rw [HoldsScript, HoldsScript, ends_cons hend, somewhere_cons, or_iff_right hstart]

/-- A comment that holds a script holds it too if it began before. -/
theorem holdsScript_of_begins (h : BeginsOpenScript (c :: cs)) : HoldsScript cs := by
  obtain ⟨rest, heq, hholds⟩ := h
  obtain ⟨-, rfl⟩ := List.cons_eq_cons.1 heq
  exact (holdsScript_cons (not_ends (by decide)) (not_startsScript (by decide))).2 hholds

theorem staysOpen_plain_cons (h : ¬BeginsOpenScript (c :: cs)) :
    Depth.plain.StaysOpen (c :: cs) ↔ Depth.plain.StaysOpen cs := by
  rw [Depth.StaysOpen, Depth.StaysOpen, LeavesScriptOpen, somewhere_cons, or_iff_right h, LeavesScriptOpen]

theorem staysOpen_escaped_cons (hend : ¬['-', '-', '>'] <+: c :: cs) (hstart : ¬StartsScript (c :: cs)) :
    Depth.escaped.StaysOpen (c :: cs) ↔ Depth.escaped.StaysOpen cs := by
  rw [Depth.StaysOpen, Depth.StaysOpen, holdsScript_cons hend hstart, LeavesScriptOpen, somewhere_cons, ← or_assoc,
    or_iff_left_of_imp holdsScript_of_begins, LeavesScriptOpen]

theorem staysOpen_doubled_cons (hend : ¬['-', '-', '>'] <+: c :: cs) :
    Depth.doubled.StaysOpen (c :: cs) ↔ Depth.doubled.StaysOpen cs := by
  rw [Depth.StaysOpen, Depth.StaysOpen, ends_cons hend, LeavesScriptOpen, somewhere_cons, ← or_assoc,
    or_iff_left_of_imp fun h => (holdsScript_of_begins h).1, LeavesScriptOpen]

/-- The end of a comment leads out of it, however deep. -/
theorem staysOpen_end {d : Depth} : d.StaysOpen ('-' :: '-' :: '>' :: cs) ↔ Depth.plain.StaysOpen cs := by
  have hend : ['-', '-', '>'] <:+: '-' :: '-' :: '>' :: cs := List.infix_append' [] _ cs
  have hplain : LeavesScriptOpen ('-' :: '-' :: '>' :: cs) ↔ LeavesScriptOpen cs := by
    simp only [LeavesScriptOpen, somewhere_cons, not_beginsOpenScript (show '-' ≠ '<' by decide),
      not_beginsOpenScript (show '>' ≠ '<' by decide), false_or]
  cases d with
  | plain => exact hplain
  | escaped => simp [Depth.StaysOpen, HoldsScript, hend, hplain]
  | doubled => simp [Depth.StaysOpen, hend, hplain]

/-- The beginning of a comment leads into it. -/
theorem staysOpen_begin :
    Depth.plain.StaysOpen ('<' :: '!' :: '-' :: '-' :: cs) ↔ Depth.escaped.StaysOpen ('-' :: '-' :: cs) := by
  have hbegins : BeginsOpenScript ('<' :: '!' :: '-' :: '-' :: cs) ↔ HoldsScript ('-' :: '-' :: cs) := by
    simp [BeginsOpenScript]
  rw [Depth.StaysOpen, Depth.StaysOpen, LeavesScriptOpen, somewhere_cons, somewhere_cons, hbegins,
    or_iff_right (not_beginsOpenScript (show '!' ≠ '<' by decide)), LeavesScriptOpen]

end Depth

/-! ## States in a text without `</` -/

/-- The depth of a state, and the characters before it that count still: the beginning of `<!--`, of `-->` or of a script
tag. -/
inductive Pending : ScriptState → Depth → List Char → Prop
  | data : Pending .data .plain []
  | lessThan : Pending .lessThan .plain ['<']
  | escapeStart : Pending .escapeStart .plain ['<', '!']
  | escapeStartDash : Pending .escapeStartDash .plain ['<', '!', '-']
  | escaped : Pending .escaped .escaped []
  | escapedDash : Pending .escapedDash .escaped ['-']
  | escapedDashDash : Pending .escapedDashDash .escaped ['-', '-']
  | escapedLessThan : Pending .escapedLessThan .escaped ['<']
  | doubleEscapeStart {name : List Char} : (∀ c ∈ name, c.isAlpha = true) →
      Pending (.doubleEscapeStart (name.map Char.toLower)) .escaped ('<' :: name)
  | doubleEscaped : Pending .doubleEscaped .doubled []
  | doubleEscapedDash : Pending .doubleEscapedDash .doubled ['-']
  | doubleEscapedDashDash : Pending .doubleEscapedDashDash .doubled ['-', '-']
  | doubleEscapedLessThan : Pending .doubleEscapedLessThan .doubled ['<']

/-- From a depth, a text leads to a state if what is pending there is the end of the text and decides as the text does,
whatever comes after it. -/
def Leads (d : Depth) (text : List Char) (s : ScriptState) : Prop :=
  ∃ e rest, Pending s e rest ∧ rest <:+ text ∧ ∀ cs, d.StaysOpen (text ++ cs) ↔ e.StaysOpen (rest ++ cs)

section Steps

variable {s : ScriptState} {d : Depth} {c : Char} {text : List Char}

theorem Pending.leads (h : Pending s d text) : Leads d text s := ⟨d, text, h, List.suffix_rfl, fun _ => Iff.rfl⟩

/-- A character that does not count is dropped. -/
theorem Leads.cons (h : Leads d text s) (hc : ∀ cs, d.StaysOpen (c :: (text ++ cs)) ↔ d.StaysOpen (text ++ cs)) :
    Leads d (c :: text) s := by
  obtain ⟨e, rest, hpending, hsuffix, hstays⟩ := h
  exact ⟨e, rest, hpending, hsuffix.trans (List.suffix_cons c text), fun cs => (hc cs).trans (hstays cs)⟩

theorem leads_onData (c : Char) : Leads .plain [c] (ScriptState.onData c) := by
  by_cases h : c = '<'
  · subst h
    exact Pending.lessThan.leads
  · rw [ScriptState.onData, if_neg h]
    exact Pending.data.leads.cons fun cs => staysOpen_plain_cons (not_beginsOpenScript h)

theorem leads_onEscaped (c : Char) : Leads .escaped [c] (ScriptState.onEscaped c) := by
  by_cases hdash : c = '-'
  · subst hdash
    exact Pending.escapedDash.leads
  by_cases h : c = '<'
  · subst h
    exact Pending.escapedLessThan.leads
  · rw [ScriptState.onEscaped, if_neg hdash, if_neg h]
    exact Pending.escaped.leads.cons fun cs => staysOpen_escaped_cons (not_ends hdash) (not_startsScript h)

theorem leads_onDoubleEscaped (c : Char) : Leads .doubled [c] (ScriptState.onDoubleEscaped c) := by
  by_cases hdash : c = '-'
  · subst hdash
    exact Pending.doubleEscapedDash.leads
  by_cases h : c = '<'
  · subst h
    exact Pending.doubleEscapedLessThan.leads
  · rw [ScriptState.onDoubleEscaped, if_neg hdash, if_neg h]
    exact Pending.doubleEscaped.leads.cons fun cs => staysOpen_doubled_cons (not_ends hdash)

/-- Letters are dropped once they are no part of a tag's name. -/
theorem Leads.letters {name : List Char} (hname : ∀ c ∈ name, c.isAlpha = true) (h : Leads .escaped text s) :
    Leads .escaped (name ++ text) s := by
  induction name with
  | nil => exact h
  | cons c name ih =>
    obtain ⟨hc, hname⟩ := List.forall_mem_cons.1 hname
    exact (ih hname).cons fun cs => staysOpen_escaped_cons (not_ends (ne_of_isAlpha hc (by decide)))
      (not_startsScript (ne_of_isAlpha hc (by decide)))

/-- The name of a script tag leads into a script in a comment, and nothing before it counts any more. -/
theorem leads_script {name : List Char} (hname : name.map Char.toLower = scriptName) (hc : endsTagName c = true) :
    Leads .escaped ('<' :: (name ++ [c])) .doubleEscaped := by
  have hletters := isAlpha_of_scriptName hname
  refine ⟨.doubled, [], .doubleEscaped, List.nil_suffix, fun cs => ?_⟩
  have hsome : Somewhere StartsScript ('<' :: (name ++ c :: cs)) :=
    somewhere_cons.2 (.inl ⟨name, c, cs, rfl, hname, hc⟩)
  have hdrop : ∀ letters : List Char, (∀ l ∈ letters, l.isAlpha = true) →
      (Depth.doubled.StaysOpen (letters ++ c :: cs) ↔ Depth.doubled.StaysOpen cs) := by
    intro letters hletters
    induction letters with
    | nil => exact staysOpen_doubled_cons (not_ends (ne_of_endsTagName hc (by decide)))
    | cons l letters ih =>
      obtain ⟨hl, hletters⟩ := List.forall_mem_cons.1 hletters
      exact (staysOpen_doubled_cons (not_ends (ne_of_isAlpha hl (by decide)))).trans (ih hletters)
  calc Depth.escaped.StaysOpen ('<' :: (name ++ [c]) ++ cs)
      ↔ Depth.doubled.StaysOpen ('<' :: (name ++ c :: cs)) := by
        simp [Depth.StaysOpen, HoldsScript, hsome]
    _ ↔ Depth.doubled.StaysOpen (name ++ c :: cs) := staysOpen_doubled_cons (not_ends (by decide))
    _ ↔ Depth.doubled.StaysOpen ([] ++ cs) := hdrop name hletters

/-- In the name of a tag: it goes on with a letter, is that of a script tag, or does not count any more. -/
theorem leads_name {name : List Char} (hname : ∀ c ∈ name, c.isAlpha = true) (c : Char) :
    Leads .escaped ('<' :: (name ++ [c])) ((ScriptState.doubleEscapeStart (name.map Char.toLower)).step c) := by
  have hlt : c.isAlpha = false → ¬(name.map Char.toLower = scriptName ∧ endsTagName c = true) → ∀ cs,
      (Depth.escaped.StaysOpen ('<' :: (name ++ [c] ++ cs)) ↔ Depth.escaped.StaysOpen (name ++ [c] ++ cs)) := by
    intro hc hname' cs
    refine staysOpen_escaped_cons (not_ends (by decide)) ?_
    rwa [List.append_assoc, List.singleton_append, startsScript_iff hname hc]
  rw [ScriptState.step]
  split
  · next hc =>
    split
    · next hscript => exact leads_script hscript hc
    · next hscript =>
      have hone : Leads .escaped [c] .escaped := Pending.escaped.leads.cons fun cs =>
        staysOpen_escaped_cons (not_ends (ne_of_endsTagName hc (by decide)))
          (not_startsScript (ne_of_endsTagName hc (by decide)))
      exact (hone.letters hname).cons (hlt (not_isAlpha_of_endsTagName hc) fun h => hscript h.1)
  · next hc =>
    split
    · next halpha =>
      have hmore : ∀ d ∈ name ++ [c], d.isAlpha = true := by
        intro d hd
        rcases List.mem_append.1 hd with hd | hd
        · exact hname d hd
        · rwa [List.mem_singleton.1 hd]
      have hlower : name.map Char.toLower ++ [c.toLower] = (name ++ [c]).map Char.toLower := by simp
      rw [hlower]
      exact (Pending.doubleEscapeStart hmore).leads
    · next halpha => exact ((leads_onEscaped c).letters hname).cons (hlt (by simpa using halpha) fun h => hc h.2)

/-- **A step takes on what counts still.** -/
theorem leads_step (h : Pending s d text) (hslash : ¬['<', '/'] <:+: text ++ [c]) : Leads d (text ++ [c]) (s.step c) := by
  -- the depth changes at `<!--`, at `-->` and after the name of a script tag; else the character is added to what is
  -- pending, or this is dropped from the left and the character is read as if it came first
  cases h with
  | data => exact leads_onData c
  | lessThan =>
    have hc : c ≠ '/' := fun heq => hslash (by simp [heq])
    rw [ScriptState.step, if_neg hc]
    split
    · next h =>
      subst h
      exact Pending.escapeStart.leads
    · next h => exact (leads_onData c).cons fun cs => staysOpen_plain_cons (by simp [BeginsOpenScript, h])
  | escapeStart =>
    rw [ScriptState.step]
    split
    · next h =>
      subst h
      exact Pending.escapeStartDash.leads
    · next h =>
      exact ((leads_onData c).cons fun cs => staysOpen_plain_cons (not_beginsOpenScript (by decide))).cons
        fun cs => staysOpen_plain_cons (by simp [BeginsOpenScript, h])
  | escapeStartDash =>
    rw [ScriptState.step]
    split
    · next h =>
      subst h
      exact ⟨.escaped, ['-', '-'], .escapedDashDash, ⟨['<', '!'], rfl⟩, fun cs => staysOpen_begin⟩
    · next h =>
      exact (((leads_onData c).cons fun cs => staysOpen_plain_cons (not_beginsOpenScript (by decide))).cons
        fun cs => staysOpen_plain_cons (not_beginsOpenScript (by decide))).cons
        fun cs => staysOpen_plain_cons (by simp [BeginsOpenScript, h])
  | escaped => exact leads_onEscaped c
  | escapedDash =>
    rw [ScriptState.step]
    split
    · next h =>
      subst h
      exact Pending.escapedDashDash.leads
    · next h =>
      exact (leads_onEscaped c).cons fun cs => staysOpen_escaped_cons (by simp [Ne.symm h]) (not_startsScript (by decide))
  | escapedDashDash =>
    rw [ScriptState.step]
    split
    · next h =>
      subst h
      exact Pending.escapedDashDash.leads.cons fun cs => staysOpen_escaped_cons (by simp) (not_startsScript (by decide))
    split
    · next h =>
      subst h
      exact ⟨.plain, [], .data, List.nil_suffix, fun cs => staysOpen_end⟩
    · next hdash h =>
      exact ((leads_onEscaped c).cons fun cs =>
        staysOpen_escaped_cons (by simp [Ne.symm hdash]) (not_startsScript (by decide))).cons
        fun cs => staysOpen_escaped_cons (by simp [Ne.symm h]) (not_startsScript (by decide))
  | escapedLessThan =>
    have hc : c ≠ '/' := fun heq => hslash (by simp [heq])
    rw [ScriptState.step, if_neg hc]
    split
    · next h =>
      have hletter : ∀ d ∈ [c], d.isAlpha = true := by simpa using h
      exact (Pending.doubleEscapeStart hletter).leads
    · next h =>
      refine (leads_onEscaped c).cons fun cs => staysOpen_escaped_cons (not_ends (by decide)) fun hs => ?_
      exact absurd ((startsScript_iff (fun _ hd => absurd hd List.not_mem_nil) (by simpa using h)).1 hs).1 (by decide)
  | doubleEscapeStart hname => exact leads_name hname c
  | doubleEscaped => exact leads_onDoubleEscaped c
  | doubleEscapedDash =>
    rw [ScriptState.step]
    split
    · next h =>
      subst h
      exact Pending.doubleEscapedDashDash.leads
    · next h => exact (leads_onDoubleEscaped c).cons fun cs => staysOpen_doubled_cons (by simp [Ne.symm h])
  | doubleEscapedDashDash =>
    rw [ScriptState.step]
    split
    · next h =>
      subst h
      exact Pending.doubleEscapedDashDash.leads.cons fun cs => staysOpen_doubled_cons (by simp)
    split
    · next h =>
      subst h
      exact ⟨.plain, [], .data, List.nil_suffix, fun cs => staysOpen_end⟩
    · next hdash h =>
      exact ((leads_onDoubleEscaped c).cons fun cs => staysOpen_doubled_cons (by simp [Ne.symm hdash])).cons
        fun cs => staysOpen_doubled_cons (by simp [Ne.symm h])
  | doubleEscapedLessThan =>
    have hc : c ≠ '/' := fun heq => hslash (by simp [heq])
    rw [ScriptState.step, if_neg hc]
    exact (leads_onDoubleEscaped c).cons fun cs => staysOpen_doubled_cons (not_ends (by decide))

/-- What a text comes to that goes no further: only in a script in a comment does it stay open. -/
theorem Pending.staysOpen_iff (h : Pending s d text) : d.StaysOpen text ↔ d = .doubled := by
  have hscript : ∀ {cs : List Char}, '<' ∉ cs → ¬Somewhere StartsScript cs :=
    not_somewhere fun _ => startsScript_lt
  have hopen : ∀ {cs : List Char}, '<' ∉ cs → ¬LeavesScriptOpen cs :=
    not_somewhere fun _ => beginsOpenScript_lt
  have hplain : ∀ {cs : List Char}, '<' ∉ cs → ¬Depth.plain.StaysOpen cs := hopen
  have hescaped : ∀ {cs : List Char}, '<' ∉ cs → ¬Depth.escaped.StaysOpen cs :=
    fun h => not_or.2 ⟨fun hs => hscript h hs.2, hopen h⟩
  have htag : ∀ {name : List Char}, (∀ c ∈ name, c.isAlpha = true) → ¬Depth.escaped.StaysOpen ('<' :: name) := by
    intro name hname
    rw [staysOpen_escaped_cons (not_ends (by decide)) (not_startsScript_of_isAlpha hname)]
    exact hescaped fun hmem => absurd (hname '<' hmem) (by decide)
  cases h with
  | data => simpa using hplain List.not_mem_nil
  | lessThan => simpa [staysOpen_plain_cons, BeginsOpenScript] using hplain List.not_mem_nil
  | escapeStart => simpa [staysOpen_plain_cons, BeginsOpenScript] using hplain List.not_mem_nil
  | escapeStartDash => simpa [staysOpen_plain_cons, BeginsOpenScript] using hplain List.not_mem_nil
  | escaped => simpa using hescaped List.not_mem_nil
  | escapedDash => simpa using hescaped (by decide)
  | escapedDashDash => simpa using hescaped (by decide)
  | escapedLessThan => simpa using htag fun _ h => absurd h List.not_mem_nil
  | doubleEscapeStart hname => simpa using htag hname
  | doubleEscaped => simp [Depth.StaysOpen]
  | doubleEscapedDash => simp [Depth.StaysOpen, List.infix_cons_iff]
  | doubleEscapedDashDash => simp [Depth.StaysOpen, List.infix_cons_iff]
  | doubleEscapedLessThan => simp [Depth.StaysOpen, List.infix_cons_iff]

theorem Pending.ne_closed (h : Pending s d text) : s ≠ .closed := by
  rintro rfl
  cases h

theorem afterEnd?_cons (h : s.step c ≠ .closed) (cs : List Char) :
    s.afterEnd? (c :: cs) = (s.step c).afterEnd? cs := by
  rw [ScriptState.afterEnd?]
  split
  · next heq => exact absurd heq h
  · rfl

/-- **A text without `</` leads to a state that decides as the whole text does.** -/
theorem exists_pending (h : Pending s d text) (cs : List Char) (hslash : ¬['<', '/'] <:+: text ++ cs) :
    ∃ t e rest, Pending t e rest ∧ (∀ after, s.afterEnd? (cs ++ after) = t.afterEnd? after) ∧
      (d.StaysOpen (text ++ cs) ↔ e = .doubled) := by
  -- on what is left of the text; what is pending is a part of what has been read, so no `</` arises where they meet
  induction cs generalizing s d text with
  | nil =>
    rw [List.append_nil]
    exact ⟨s, d, text, h, fun _ => rfl, h.staysOpen_iff⟩
  | cons c cs ih =>
    have htext : text ++ c :: cs = text ++ [c] ++ cs := by simp
    rw [htext] at hslash ⊢
    obtain ⟨e, rest, hrest, hsuffix, hstays⟩ :=
      leads_step h fun hin => hslash (hin.trans (List.prefix_append _ cs).isInfix)
    have hslash' : ¬['<', '/'] <:+: rest ++ cs := fun hin => by
      obtain ⟨before, hbefore⟩ := hsuffix
      rw [← hbefore, List.append_assoc] at hslash
      exact hslash (List.infix_append_of_infix_right hin)
    obtain ⟨t, e', rest', hpending, hafter, hopen⟩ := ih hrest hslash'
    exact ⟨t, e', rest', hpending, fun after => (afterEnd?_cons hrest.ne_closed _).trans (hafter after),
      (hstays cs).trans hopen⟩

end Steps

/-! ## The first place of a text -/

theorem afterFirst?_append {part before : List Char} (hpart : part ≠ []) (cs : List Char)
    (h : ¬part <:+: before ++ part.dropLast) : afterFirst? part (before ++ part ++ cs) = some cs := by
  induction before with
  | nil =>
    obtain ⟨c, part, rfl⟩ := List.exists_cons_of_ne_nil hpart
    have hstart : (c :: part).isPrefixOf (c :: part ++ cs) = true := by simp
    rw [List.nil_append, List.cons_append, afterFirst?, ← List.cons_append, if_pos hstart, List.drop_left]
  | cons c before ih =>
    have hnot : ¬part.isPrefixOf (c :: (before ++ part ++ cs)) = true := by
      rw [List.isPrefixOf_iff_prefix]
      intro hstart
      have hlong : part.length ≤ (c :: before ++ part.dropLast).length := by
        simp only [List.length_append, List.length_cons, List.length_dropLast]
        omega
      have hmore : c :: before ++ part.dropLast <+: c :: (before ++ part ++ cs) := by
        rw [List.cons_append, List.append_assoc before]
        exact (List.prefix_append_right_inj (c :: before)).2 ((List.dropLast_prefix part).trans (List.prefix_append _ cs))
      exact h (List.prefix_of_prefix_length_le hstart hmore hlong).isInfix
    rw [List.cons_append, List.cons_append, afterFirst?, if_neg hnot]
    exact ih fun hin => h (hin.trans (List.suffix_cons c _).isInfix)

/-- Text without `<` in a script is passed over. -/
theorem afterEnd?_data_append {before : List Char} (h : '<' ∉ before) (cs : List Char) :
    ScriptState.data.afterEnd? (before ++ cs) = ScriptState.data.afterEnd? cs := by
  induction before with
  | nil => rfl
  | cons c before ih =>
    obtain ⟨hc, hbefore⟩ := not_or.1 (mt List.mem_cons.2 h)
    have hstep : ScriptState.data.step c = .data := if_neg (Ne.symm hc)
    rw [List.cons_append, afterEnd?_cons (by simp [hstep]), hstep, ih hbefore]

/-- The state in which all of a text is decided. -/
def Depth.state : Depth → ScriptState
  | plain => .data
  | escaped => .escaped
  | doubled => .doubleEscaped

/-- A semicolon decides what was pending. -/
theorem Pending.step_semicolon {s : ScriptState} {d : Depth} {text : List Char} (h : Pending s d text) :
    s.step ';' = d.state := by
  cases h <;> rfl

end Html

namespace Page

open Html

theorem tail_eq (p : Page) : p.tail = ";\n    </script>".toList ++ p.afterScript := by
  cases p <;> rfl

/-- The end tag after the configuration ends the script unless a script was left open in a comment, which nothing else on
the page ends either. -/
theorem afterEnd?_tail {s : ScriptState} {d : Depth} {text : List Char} (h : Pending s d text) (p : Page) :
    s.afterEnd? p.tail = if d = .doubled then none else some p.afterScript := by
  have hclosed : s.step ';' ≠ .closed := by
    rw [h.step_semicolon]
    cases d <;> decide
  have hline : s.afterEnd? p.tail = d.state.afterEnd? p.tail.tail := by
    obtain ⟨rest, hrest⟩ := p.exists_tail_eq
    rw [hrest, afterEnd?_cons hclosed, h.step_semicolon]
    rfl
  rw [hline]
  -- the literals are spelled out before the kernel runs over them: to decode them there takes far longer
  unfold afterScript tail module
  repeat rw [String.toList_ofList]
  cases d <;> cases p <;> decide +kernel

/-- The first script of a page is the one with the configuration. -/
theorem exists_head_eq (p : Page) : ∃ before,
    p.head = before ++ "<script>".toList ++ "\n        var INITIAL_CONFIG = ".toList ∧
    ¬"<script>".toList <:+: before ++ "<script>".toList.dropLast := by
  have hlast : "</title>\n    <script>\n        var INITIAL_CONFIG = ".toList =
      "</title>\n    ".toList ++ ("<script>".toList ++ "\n        var INITIAL_CONFIG = ".toList) := rfl
  unfold head
  rw [hlast, ← List.append_assoc, ← List.append_assoc]
  refine ⟨_, rfl, ?_⟩
  unfold title
  repeat rw [String.toList_ofList]
  cases p <;> decide +kernel

theorem afterScript?_head (p : Page) (cs : List Char) :
    afterScript? (p.head ++ cs) = ScriptState.data.afterEnd? cs := by
  obtain ⟨before, hhead, hfirst⟩ := p.exists_head_eq
  have hplace := afterFirst?_append (by decide) ("\n        var INITIAL_CONFIG = ".toList ++ cs) hfirst
  have htag : '<' :: (scriptName ++ ['>']) = "<script>".toList := rfl
  rw [afterScript?, hhead, htag, List.append_assoc, hplace, Option.bind_some, afterEnd?_data_append (by decide)]

/-- Where the script of a page ends: at the end tag after the configuration, or nowhere. -/
theorem afterScript?_render (p : Page) (config : List Char) :
    (LeavesScriptOpen (escapeScript config) ∧ afterScript? (p.render config) = none) ∨
      (¬LeavesScriptOpen (escapeScript config) ∧ afterScript? (p.render config) = some p.afterScript) := by
  obtain ⟨s, d, rest, hpending, hafter, hopen⟩ := exists_pending .data (escapeScript config)
    (Html.not_infix_escapeScript config)
  have hplace : afterScript? (p.render config) = if d = .doubled then none else some p.afterScript := by
    rw [render, List.append_assoc, afterScript?_head, hafter, afterEnd?_tail hpending]
  replace hopen : LeavesScriptOpen (escapeScript config) ↔ d = .doubled := hopen
  rw [hplace, hopen]
  by_cases h : d = .doubled
  · exact .inl ⟨h, if_pos h⟩
  · exact .inr ⟨h, if_neg h⟩

/-- **Where the script with a configuration ends.**  Nothing in the configuration ends it before the end tag that the page
has for it.  That end tag ends it unless the configuration begins a comment and, in it, a script tag, and does not end the
comment; then nothing on the page ends it. -/
theorem script_end_exact (c : Config) (p : Page) (sortKeys : Bool) : ∃ text,
    c.encode sortKeys = .ok text ∧
    Service.pageResponse sortKeys p (.ok c) = .html 200 (String.ofList (p.render text.toList)) ∧
    p.render text.toList = p.head ++ escapeScript text.toList ++ (";\n    </script>".toList ++ p.afterScript) ∧
    (afterScript? (p.render text.toList) = some p.afterScript ↔ ¬LeavesScriptOpen (escapeScript text.toList)) ∧
    (afterScript? (p.render text.toList) = none ↔ LeavesScriptOpen (escapeScript text.toList)) := by
  refine ⟨c.text sortKeys, c.encode_eq sortKeys, ?_, by rw [← tail_eq]; rfl, ?_⟩
  · rw [Service.pageResponse, c.encode_eq]
  · rcases p.afterScript?_render (c.text sortKeys).toList with ⟨hopen, hplace⟩ | ⟨hopen, hplace⟩
    · simp [hplace, hopen]
    · simp [hplace, hopen]

/-- A configuration whose key for analytics begins a script tag in a comment. -/
def openComment : Config :=
  ⟨fun
    | .analyticsKey => ("<!--<script>" : String)
    | f => f.standard, none⟩

theorem openComment_never_ends : ∃ text,
    openComment.encode false = .ok text ∧ afterScript? (explore.render text.toList) = none := by
  refine ⟨openComment.text false, openComment.encode_eq false, ?_⟩
  rw [Config.text, Json.Value.encode_eq, String.toList_ofList]
  unfold render head tail title module
  repeat rw [String.toList_ofList]
  decide +kernel

end Page
end ConfigService
