import CopyEditor.Proofs.Scenario.Found
import CopyEditor.Proofs.Text.Cut
import Mathlib.Computability.Language
import Mathlib.Order.CompletePartialOrder

/-!
The speaker of a `say` directive. The directive gives a name for its storage (`GivesStorage`), and
the name has to be made of parts with underscores between them (`HasSpeakerParts`). The name is read
character by character; what has been read decides which characters the part being read may have and
how many parts still have to follow (`isSpeakerFrom_iff`). So the reading accepts exactly the names
of such parts (`isSpeaker_iff`), which are the words of a regular language (`isSpeaker_iff_mem`). A
directive without a storage and one with another name are told apart (`tells_say`).
-/

set_option autoImplicit false
set_option relaxedAutoImplicit false

namespace CopyEditor.Scenario

open scoped Computability

def storageKey : Text := "storage=".toList

/-- What a line gives for its storage: the text after the first `storage=`, up to the next space or
the end of the line. -/
def GivesStorage (line name : Text) : Prop :=
  ∃ before rest, Text.FirstKey storageKey line before (name ++ rest) ∧
    ' ' ∉ name ∧ ∀ c ∈ rest.head?, c = ' '

/-- Small letters and decimal digits. -/
def isLeadingChar (c : Char) : Bool := isLowerAscii c || isDigit c

/-- Small letters and ASCII digits. -/
def isLastChar (c : Char) : Bool := isLowerAscii c || isAsciiDigit c

/-- A part has a character, and all its characters are accepted. -/
def IsPart (accepts : Char → Bool) (part : Text) : Prop :=
  part ≠ [] ∧ ∀ c ∈ part, accepts c = true

/-- Between its underscores the name has at least three parts; the first two of them may have any
decimal digits, the others ASCII digits only. -/
def HasSpeakerParts (name : Text) : Prop :=
  ∃ first second third others, name.splitOn '_' = first :: second :: third :: others ∧
    IsPart isLeadingChar first ∧ IsPart isLeadingChar second ∧
    ∀ part ∈ third :: others, IsPart isLastChar part

/-! ### Storage -/

theorem speaker?_eq_none_iff {line : Text} : speaker? line = none ↔ ¬storageKey <:+: line := by
  rw [speaker?, Option.map_eq_none_iff]
  exact Text.after?_eq_none_iff

theorem takeWhile_ne_space_eq_iff {text name : Text} :
    text.takeWhile (· != ' ') = name ↔
      ∃ rest, text = name ++ rest ∧ ' ' ∉ name ∧ ∀ c ∈ rest.head?, c = ' ' := by
  have haccepts {name : Text} : (∀ c ∈ name, (c != ' ') = true) ↔ ' ' ∉ name :=
    ⟨fun h hspace ↦ absurd (h ' ' hspace) (by decide),
      fun h _ hc ↦ bne_iff_ne.mpr (ne_of_mem_of_not_mem hc h)⟩
  constructor
  · rintro rfl
    obtain ⟨row, rest, heq, hrow, hrest⟩ := Text.exists_eq_append_of_accepts (· != ' ') text
    rw [heq, Text.takeWhile_append_of_accepts hrow hrest]
    exact ⟨rest, rfl, haccepts.mp hrow, by simpa using hrest⟩
  · rintro ⟨rest, rfl, hname, hrest⟩
    exact Text.takeWhile_append_of_accepts (haccepts.mpr hname) (by simpa using hrest)

theorem speaker?_eq_some_iff {line name : Text} :
    speaker? line = some name ↔ GivesStorage line name := by
  simp only [speaker?, Option.map_eq_some_iff, takeWhile_ne_space_eq_iff]
  constructor
  · rintro ⟨after, hafter, rest, rfl, hname, hrest⟩
    obtain ⟨before, hfirst⟩ := Text.after?_eq_some_iff.mp hafter
    exact ⟨before, rest, hfirst, hname, hrest⟩
  · rintro ⟨before, rest, hfirst, hname, hrest⟩
    exact ⟨name ++ rest, Text.after?_eq_some_iff.mpr ⟨before, hfirst⟩, rest, rfl, hname, hrest⟩

/-! ### Parts of a name -/

/-- The characters of a part after which `leading` parts still have to follow. -/
def acceptsFor (leading : Nat) : Char → Bool := if leading = 0 then isLastChar else isLeadingChar

/-- The parts after one that `leading` parts still have to follow. -/
def AreParts : Nat → List Text → Prop
  | leading, [] => leading = 0
  | leading, part :: parts => IsPart (acceptsFor (leading - 1)) part ∧ AreParts (leading - 1) parts

theorem acceptsFor_eq (leading : Nat) (c : Char) : acceptsFor leading c =
    (isLowerAscii c || if leading = 0 then isAsciiDigit c else isDigit c) := by
  unfold acceptsFor
  split <;> rfl

/-- Of a name that has begun, the part being read and the parts after it are judged. -/
theorem isSpeakerFrom_iff (leading : Nat) (begun : Bool) (text : Text) :
    isSpeakerFrom leading begun text = true ↔ ∃ part parts, text.splitOn '_' = part :: parts ∧
      (begun = true ∨ part ≠ []) ∧ (∀ c ∈ part, acceptsFor leading c = true) ∧
      AreParts leading parts := by
  induction text generalizing leading begun with
  | nil => simp [isSpeakerFrom, Text.splitOn, AreParts, and_comm]
  | cons c text ih =>
    obtain ⟨part, parts, hparts⟩ := Text.exists_splitOn_eq_cons '_' text
    by_cases hc : c = '_'
    · -- the underscore closes the part that has begun
      subst hc
      simp [isSpeakerFrom, Text.splitOn_cons_self, ih, hparts, AreParts, IsPart, and_assoc]
    · simp [isSpeakerFrom, hc, Text.splitOn_cons_of_ne hc hparts, ih, hparts, acceptsFor_eq,
        and_assoc]

theorem areParts_zero_iff {parts : List Text} :
    AreParts 0 parts ↔ ∀ part ∈ parts, IsPart isLastChar part := by
  induction parts with
  | nil => simp [AreParts]
  | cons part parts ih =>
    rw [AreParts, List.forall_mem_cons, ← ih]
    rfl

/-- A name is accepted exactly if its parts are as they have to be. -/
theorem isSpeaker_iff {name : Text} : isSpeaker name = true ↔ HasSpeakerParts name := by
  rw [isSpeaker, isSpeakerFrom_iff]
  constructor
  · rintro ⟨first, parts, hsplit, hbegun, hfirst, hparts⟩
    obtain _ | ⟨second, _ | ⟨third, others⟩⟩ := parts
    · cases hparts
    · cases hparts.2
    · exact ⟨first, second, third, others, hsplit, ⟨by simpa using hbegun, hfirst⟩, hparts.1,
        List.forall_mem_cons.mpr ⟨hparts.2.1, areParts_zero_iff.mp hparts.2.2⟩⟩
  · rintro ⟨first, second, third, others, hsplit, hfirst, hsecond, hothers⟩
    obtain ⟨hthird, hothers⟩ := List.forall_mem_cons.mp hothers
    exact ⟨first, second :: third :: others, hsplit, .inr hfirst.1, hfirst.2, hsecond, hthird,
      areParts_zero_iff.mpr hothers⟩

/-! ### The language of names -/

/-- The words that are one part. -/
def partLanguage (accepts : Char → Bool) : Language Char := {part | IsPart accepts part}

def underscore : Language Char := {['_']}

/-- A last part with the underscore before it. -/
def tailLanguage : Language Char := underscore * partLanguage isLastChar

/-- Two leading parts with an underscore between them, and one or more last parts. -/
def speakerLanguage : Language Char :=
  partLanguage isLeadingChar * underscore * partLanguage isLeadingChar *
    (tailLanguage * tailLanguage∗)

theorem IsPart.underscore_notMem {accepts : Char → Bool} {part : Text} (h : IsPart accepts part)
    (haccepts : accepts '_' = false) : '_' ∉ part := fun hmem ↦ by
  have hchar := h.2 _ hmem
  rw [haccepts] at hchar
  cases hchar

theorem joinWith_underscore (part : Text) (parts : List Text) :
    Text.joinWith ['_'] (part :: parts) = part ++ parts.flatMap ('_' :: ·) := by
  induction parts generalizing part with
  | nil => simp
  | cons next parts ih =>
    rw [Text.joinWith, ih, List.flatMap_cons, List.append_assoc, List.singleton_append,
      List.cons_append]
    exact List.cons_ne_nil _ _

/-- The parts of a name, written one after the other. -/
theorem hasSpeakerParts_iff {name : Text} : HasSpeakerParts name ↔
    ∃ first second parts, name = first ++ '_' :: second ++ parts.flatMap ('_' :: ·) ∧
      IsPart isLeadingChar first ∧ IsPart isLeadingChar second ∧ parts ≠ [] ∧
      ∀ part ∈ parts, IsPart isLastChar part := by
  have hjoin (first second : Text) (parts : List Text) :
      Text.joinWith ['_'] (first :: second :: parts) =
        first ++ '_' :: second ++ parts.flatMap ('_' :: ·) := by
    rw [joinWith_underscore, List.flatMap_cons, List.append_assoc]
  constructor
  · rintro ⟨first, second, third, others, hsplit, hfirst, hsecond, hothers⟩
    refine ⟨first, second, third :: others, ?_, hfirst, hsecond, List.cons_ne_nil _ _, hothers⟩
    rw [← hjoin, ← hsplit, Text.joinWith_splitOn]
  · rintro ⟨first, second, parts, hname, hfirst, hsecond, hne, hparts⟩
    have hclean : ∀ part ∈ first :: second :: parts, '_' ∉ part := by
      simp only [List.forall_mem_cons]
      exact ⟨hfirst.underscore_notMem (by decide), hsecond.underscore_notMem (by decide),
        fun part hpart ↦ (hparts part hpart).underscore_notMem (by decide)⟩
    obtain ⟨third, others, rfl⟩ := List.exists_cons_of_ne_nil hne
    refine ⟨first, second, third, others, ?_, hfirst, hsecond, hparts⟩
    rw [hname, ← hjoin, Text.splitOn_joinWith (List.cons_ne_nil _ _) hclean]

theorem mem_tailLanguage_iff {word : Text} :
    word ∈ tailLanguage ↔ ∃ part, IsPart isLastChar part ∧ word = '_' :: part := by
  rw [tailLanguage, Language.mem_mul]
  constructor
  · rintro ⟨_, rfl, part, hpart, rfl⟩
    exact ⟨part, hpart, rfl⟩
  · rintro ⟨part, hpart, rfl⟩
    exact ⟨['_'], rfl, part, hpart, rfl⟩

theorem mem_kstar_tailLanguage_iff {word : Text} : word ∈ tailLanguage∗ ↔
    ∃ parts : List Text, (∀ part ∈ parts, IsPart isLastChar part) ∧
      word = parts.flatMap ('_' :: ·) := by
  rw [Language.mem_kstar]
  constructor
  · rintro ⟨words, rfl, hwords⟩
    induction words with
    | nil => exact ⟨[], List.forall_mem_nil _, rfl⟩
    | cons word words ih =>
      obtain ⟨hword, hrest⟩ := List.forall_mem_cons.mp hwords
      obtain ⟨part, hpart, rfl⟩ := mem_tailLanguage_iff.mp hword
      obtain ⟨parts, hparts, heq⟩ := ih hrest
      exact ⟨part :: parts, List.forall_mem_cons.mpr ⟨hpart, hparts⟩,
        by rw [List.flatten_cons, heq, List.flatMap_cons]⟩
  · rintro ⟨parts, hparts, rfl⟩
    refine ⟨parts.map ('_' :: ·), List.flatMap_def .., List.forall_mem_map.mpr fun part hpart ↦ ?_⟩
    exact mem_tailLanguage_iff.mpr ⟨part, hparts part hpart, rfl⟩

/-- The reading of a name accepts the words of its language. -/
theorem isSpeaker_iff_mem {name : Text} : isSpeaker name = true ↔ name ∈ speakerLanguage := by
  rw [isSpeaker_iff, hasSpeakerParts_iff]
  simp only [speakerLanguage, Language.mem_mul, mem_tailLanguage_iff, mem_kstar_tailLanguage_iff]
  constructor
  · rintro ⟨first, second, parts, rfl, hfirst, hsecond, hne, hparts⟩
    obtain ⟨third, others, rfl⟩ := List.exists_cons_of_ne_nil hne
    obtain ⟨hthird, hothers⟩ := List.forall_mem_cons.mp hparts
    exact ⟨_, ⟨_, ⟨first, hfirst, ['_'], rfl, rfl⟩, second, hsecond, rfl⟩, _,
      ⟨_, ⟨third, hthird, rfl⟩, _, ⟨others, hothers, rfl⟩, rfl⟩, by simp⟩
  · rintro ⟨_, ⟨_, ⟨first, hfirst, _, rfl, rfl⟩, second, hsecond, rfl⟩, _,
      ⟨_, ⟨third, hthird, rfl⟩, _, ⟨others, hothers, rfl⟩, rfl⟩, rfl⟩
    exact ⟨first, second, third :: others, by simp, hfirst, hsecond, List.cons_ne_nil _ _,
      List.forall_mem_cons.mpr ⟨hthird, hothers⟩⟩

/-! ### What is told -/

section Telling

variable {line : Text}

theorem sayReports_of_none (h : speaker? line = none) :
    sayReports line = [.onLine .sayWithoutStorage] := by
  rw [sayReports, h]

theorem sayReports_of_some {name : Text} (h : speaker? line = some name) :
    sayReports line = if isSpeaker name then [] else [.onLine .malformedSpeaker] := by
  rw [sayReports, h]

/-- A `say` directive is told to lack its storage exactly if it does. Otherwise it gives one name,
and is told to have a malformed one exactly if the name is not made of the parts it has to have. It
is never told both. The names of such parts are the words of the expression for them. -/
theorem tells_say (book : RuleBook) (state : State) (hkind : LineKind.ofLine line = .directive)
    (hname : Text.firstWord (line.drop 1) = "say".toList) :
    ∃ step, state.step book line = .ok step ∧
      let messages := Diagnostic.remarks step.diagnostics
      ("@say without \"storage=\"".toList ∈ messages ↔ ¬storageKey <:+: line) ∧
        (storageKey <:+: line → ∃! name, GivesStorage line name) ∧
        (∀ name, GivesStorage line name →
          ("malformed @say identifier".toList ∈ messages ↔ ¬HasSpeakerParts name)) ∧
        ¬("@say without \"storage=\"".toList ∈ messages ∧
          "malformed @say identifier".toList ∈ messages) ∧
        ∀ name, HasSpeakerParts name ↔ name ∈ speakerLanguage := by
  have hsay : Directive.ofLine line = .say := by
    rw [Directive.ofLine, hname]
    decide
  have hlanguage (name : Text) : HasSpeakerParts name ↔ name ∈ speakerLanguage :=
    isSpeaker_iff.symm.trans isSpeaker_iff_mem
  have hstep := State.step_of_directive book state line hkind
  rw [hsay] at hstep
  refine ⟨_, hstep, ?_⟩
  intro messages
  have hmessages {finding : Finding} (hconstant : finding ∈ Finding.constants)
      (hspace : finding ≠ .spaceAfterDirective) :
      finding.message ∈ messages ↔ finding ∈ (sayReports line).map (·.finding) :=
    message_mem_remarks_directive_iff hconstant hspace state.place line (sayReports line)
  have hmissing : "@say without \"storage=\"".toList ∈ messages ↔ _ :=
    @hmessages .sayWithoutStorage (by decide) (by decide)
  have hmalformed : "malformed @say identifier".toList ∈ messages ↔ _ :=
    @hmessages .malformedSpeaker (by decide) (by decide)
  rw [and_iff_left hlanguage, hmissing, ← speaker?_eq_none_iff]
  simp only [hmalformed, ← speaker?_eq_some_iff, ← isSpeaker_iff]
  cases hspeaker : speaker? line with
  | none =>
    have hkey := speaker?_eq_none_iff.mp hspeaker
    simp [sayReports_of_none hspeaker, Report.onLine, hkey]
  | some name =>
    rw [sayReports_of_some hspeaker]
    cases hvalid : isSpeaker name <;> simp [Report.onLine, hvalid]

/-- A digit of another script may stand in the first two parts of a name, but not in a later one. -/
theorem tells_say_digits :
    let line := "@say storage=\u0663_b_c_\u0663 x".toList
    LineKind.ofLine line = .directive ∧ Text.firstWord (line.drop 1) = "say".toList ∧
      GivesStorage line "\u0663_b_c_\u0663".toList ∧
      ∃ step, (State.start "day.ks".toList).step .standard line = .ok step ∧
        "malformed @say identifier".toList ∈ Diagnostic.remarks step.diagnostics := by
  intro line
  have hkind : LineKind.ofLine line = .directive := by decide
  have hname : Text.firstWord (line.drop 1) = "say".toList := by decide
  have hstorage : GivesStorage line "\u0663_b_c_\u0663".toList :=
    speaker?_eq_some_iff.mp (by decide)
  have hparts : ¬HasSpeakerParts "\u0663_b_c_\u0663".toList :=
    mt isSpeaker_iff.mpr (by decide)
  obtain ⟨step, hstep, -, -, hmalformed, -⟩ :=
    tells_say .standard (State.start "day.ks".toList) hkind hname
  exact ⟨hkind, hname, hstorage, step, hstep, (hmalformed _ hstorage).mpr hparts⟩

end Telling

end CopyEditor.Scenario
