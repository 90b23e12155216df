import CopyEditor.Catalog.Line
import CopyEditor.Proofs.Text.Cut
import CopyEditor.Proofs.Text.Trim
import CopyEditor.Proofs.Text.Word
import CopyEditor.Proofs.Typography.Mending

/-!
Lines of a catalog under two changes: another text between the quotes, and white space after the
end. A text that was read from its escapes and mended is read back when it is written
(`unescape_escape`); a line with such a text between its quotes, and a line with more white space
after it, are lines of the same kind as before (`LineKind.ofLine_write`,
`LineKind.ofLine_append_spaces`).
-/

set_option autoImplicit false
set_option relaxedAutoImplicit false

namespace CopyEditor

/-! ### Beginnings -/

namespace Text

section Stops

variable {p : Char → Bool} {more : Text}

theorem dropWhile_append_of_stop (hmore : ∀ c ∈ more.head?, p c = false) (text : Text) :
    (text ++ more).dropWhile p = text.dropWhile p ++ more := by
  induction text with
  | nil =>
    cases more with
    | nil => rfl
    | cons c more => simp [hmore c rfl]
  | cons c text ih =>
    simp only [List.cons_append, List.dropWhile_cons, ih]
    split <;> rfl

end Stops

/-- What follows does not matter for how a text starts, if it starts with none of those
characters. -/
theorem startsWith_append {more key : Text} (hmore : ∀ c ∈ more.head?, c ∉ key) (text : Text) :
    (text ++ more).startsWith key = text.startsWith key := by
  induction text generalizing key with
  | nil =>
    cases more with
    | nil => rfl
    | cons c more =>
      cases key with
      | nil => rfl
      | cons k key =>
        have hk : k ≠ c := Ne.symm (List.ne_of_not_mem_cons (hmore c rfl))
        simp [startsWith, List.isPrefixOf, hk]
  | cons c text ih =>
    cases key with
    | nil => simp [startsWith]
    | cons k key =>
      have hrest := ih fun x hx ↦ List.not_mem_of_not_mem_cons (hmore x hx)
      simp only [startsWith, List.cons_append, List.isPrefixOf] at hrest ⊢
      rw [hrest]

end Text

namespace Catalog

open Typography

/-! ### Escapes -/

def feedEscape : Text := ['\\', 'n']

/-- No line feed is escaped in the text. -/
def Unescaped : Text → Prop
  | [] => True
  | c :: rest => Text.startsWith (c :: rest) feedEscape = false ∧ Unescaped rest

section Escapes

variable {c : Char} {text rest : Text}

theorem startsWith_feedEscape (c : Char) (rest : Text) :
    Text.startsWith (c :: rest) feedEscape = (c == '\\' && rest.startsWith ['n']) := by
  rw [BEq.comm]
  rfl

theorem startsWith_feedEscape_of_ne_pair (h : ∀ rest', c = '\\' → rest = 'n' :: rest' → False) :
    Text.startsWith (c :: rest) feedEscape = false := by
  rw [startsWith_feedEscape, Bool.and_eq_false_iff, beq_eq_false_iff_ne]
  by_cases hc : c = '\\'
  · cases rest with
    | nil => exact .inr rfl
    | cons d rest =>
      have hd : 'n' ≠ d := fun hd ↦ h rest hc (by rw [hd])
      simp [Text.startsWith, List.isPrefixOf, hd]
  · exact .inl hc

theorem unescape_cons (h : Text.startsWith (c :: rest) feedEscape = false) :
    unescape (c :: rest) = c :: unescape rest := by
  rw [unescape]
  rintro rest' rfl rfl
  simp [Text.startsWith, feedEscape, List.isPrefixOf] at h

theorem startsWith_unescape (text : Text) :
    (unescape text).startsWith ['n'] = text.startsWith ['n'] := by
  induction text using unescape.induct with
  | case1 => rfl
  | case2 rest _ => simp [unescape, Text.startsWith, List.isPrefixOf]
  | case3 c rest hpair _ =>
    rw [unescape]
    · simp [Text.startsWith, List.isPrefixOf]
    · exact hpair

theorem unescaped_unescape (text : Text) : Unescaped (unescape text) := by
  induction text using unescape.induct with
  | case1 => trivial
  | case2 rest ih => exact ⟨rfl, ih⟩
  | case3 c rest hpair ih =>
    have h := startsWith_feedEscape_of_ne_pair hpair
    rw [unescape_cons h]
    rw [startsWith_feedEscape, ← startsWith_unescape, ← startsWith_feedEscape] at h
    exact ⟨h, ih⟩

theorem Unescaped.mended {text' : Text} (h : Mended text text') (htext : Unescaped text) :
    Unescaped text' := by
  induction h with
  | nil => trivial
  | glyph hglyph h ih =>
    have hsame := (Mended.glyph hglyph h).startsWith (by decide : Untouched feedEscape)
    exact ⟨hsame.trans htext.1, ih htext.2⟩
  | dots _ ih => exact ⟨rfl, ih htext.2.2.2⟩

theorem escape_cons_of_ne (h : c ≠ '\n') (rest : Text) : escape (c :: rest) = c :: escape rest := by
  simp [escape, h]

theorem escape_cons_feed (rest : Text) : escape ('\n' :: rest) = '\\' :: 'n' :: escape rest := by
  simp [escape]

theorem startsWith_escape (text : Text) :
    (escape text).startsWith ['n'] = text.startsWith ['n'] := by
  cases text with
  | nil => rfl
  | cons c rest =>
    by_cases hc : c = '\n'
    · subst hc
      rw [escape_cons_feed]
      rfl
    · rw [escape_cons_of_ne hc]
      simp [Text.startsWith, List.isPrefixOf]

/-- Writing a text with escapes and reading it gives the text back, unless it holds an escape
already. -/
theorem unescape_escape (h : Unescaped text) : unescape (escape text) = text := by
  induction text with
  | nil => rfl
  | cons c rest ih =>
    by_cases hc : c = '\n'
    · subst hc
      rw [escape_cons_feed, unescape, ih h.2]
    · rw [escape_cons_of_ne hc, unescape_cons, ih h.2]
      rw [startsWith_feedEscape, startsWith_escape, ← startsWith_feedEscape]
      exact h.1

/-- Reading the escapes of a text and writing them again gives the text back, unless it holds a line
feed. -/
theorem escape_unescape (h : '\n' ∉ text) : escape (unescape text) = text := by
  induction text using unescape.induct with
  | case1 => rfl
  | case2 rest ih =>
    have hrest : '\n' ∉ rest := fun hmem ↦ h (by simp [hmem])
    rw [unescape, escape_cons_feed, ih hrest]
  | case3 c rest hpair ih =>
    rw [List.mem_cons, not_or] at h
    rw [unescape]
    · rw [escape_cons_of_ne (Ne.symm h.1), ih h.2]
    · exact hpair

theorem feed_notMem_escape (text : Text) : '\n' ∉ escape text := by
  intro hmem
  obtain ⟨c, _, hc⟩ := List.mem_flatMap.mp hmem
  split_ifs at hc with hfeed
  · exact absurd hc (by decide)
  · exact hfeed (List.mem_singleton.mp hc).symm

theorem return_not_mem_unescape (h : '\r' ∉ text) : '\r' ∉ unescape text := by
  induction text using unescape.induct with
  | case1 => exact h
  | case2 rest ih => simp_all [unescape]
  | case3 c rest hpair ih =>
    rw [unescape]
    · simp_all
    · exact hpair

theorem unbroken_escape (h : '\r' ∉ text) : (escape text).Unbroken := by
  intro c hc
  obtain ⟨x, hx, hc⟩ := List.mem_flatMap.mp hc
  split_ifs at hc with hfeed
  · revert hc
    simp
    rintro (rfl | rfl) <;> decide
  · obtain rfl := List.mem_singleton.mp hc
    exact ⟨ne_of_mem_of_not_mem hx h, hfeed⟩

end Escapes

/-! ### Quoted lines -/

namespace QuotedLine

variable {line : Text} {quoted : QuotedLine}

/-- The line goes on after its end. -/
def lengthen (more : Text) (quoted : QuotedLine) : QuotedLine :=
  { quoted with tail := quoted.tail ++ more }

@[simp] theorem text_lengthen (more : Text) (quoted : QuotedLine) :
    (quoted.lengthen more).text = quoted.text := rfl

theorem write_lengthen (more : Text) (quoted : QuotedLine) (text : Text) :
    (quoted.lengthen more).write text = quoted.write text ++ more := by
  simp [lengthen, write]

/-- A line is cut at its first and at its last double quote, or at the only one that it has. -/
theorem ofLine?_cases (h : ofLine? line = some quoted) :
    '"' ∉ quoted.lead ∧ '"' ∉ quoted.tail ∧
      (line = quoted.lead ++ '"' :: quoted.content ++ '"' :: quoted.tail ∨
        quoted.content = [] ∧ line = quoted.lead ++ '"' :: quoted.tail) := by
  simp only [ofLine?, Option.map_eq_some_iff] at h
  obtain ⟨⟨lead, rest⟩, hcut, h⟩ := h
  obtain ⟨hlead, rfl⟩ := Text.of_cutAt? hcut
  cases hlast : Text.cutAt? '"' rest.reverse with
  | none =>
    rw [Text.cutAt?_eq_none_iff, List.mem_reverse] at hlast
    simp only [Text.cutAt?_eq_none_iff.mpr (List.mem_reverse.not.mpr hlast)] at h
    subst h
    exact ⟨hlead, hlast, .inr ⟨rfl, rfl⟩⟩
  | some cut =>
    obtain ⟨tail, content⟩ := cut
    simp only [hlast] at h
    subst h
    obtain ⟨htail, hreverse⟩ := Text.of_cutAt? hlast
    have hrest : rest = content.reverse ++ '"' :: tail.reverse := by
      rw [← List.reverse_reverse rest, hreverse]
      simp
    refine ⟨hlead, by simpa using htail, .inl ?_⟩
    rw [hrest, List.append_assoc, List.cons_append]

/-- Neither what comes before the first quote nor what comes after the last one holds a quote. -/
theorem of_ofLine? (h : ofLine? line = some quoted) :
    '"' ∉ quoted.lead ∧ '"' ∉ quoted.tail ∧ ∃ rest, line = quoted.lead ++ '"' :: rest ∧
      ∀ c ∈ quoted.content ++ quoted.tail, c ∈ rest := by
  obtain ⟨hlead, htail, hline | ⟨hcontent, hline⟩⟩ := ofLine?_cases h
  · refine ⟨hlead, htail, quoted.content ++ '"' :: quoted.tail, by simp [hline], ?_⟩
    intro c hc
    rcases List.mem_append.mp hc with hc | hc <;> simp [hc]
  · refine ⟨hlead, htail, quoted.tail, hline, ?_⟩
    simp [hcontent]

theorem ofLine?_write (hlead : '"' ∉ quoted.lead) (htail : '"' ∉ quoted.tail) (text : Text) :
    ofLine? (quoted.write text) = some { quoted with content := escape text } := by
  have hcut : Text.cutAt? '"' (quoted.write text) =
      some (quoted.lead, escape text ++ '"' :: quoted.tail) := by
    rw [write, List.append_assoc, List.cons_append, Text.cutAt?_append_cons hlead]
  have hlast : Text.cutAt? '"' (escape text ++ '"' :: quoted.tail).reverse =
      some (quoted.tail.reverse, (escape text).reverse) := by
    rw [List.reverse_append, List.reverse_cons, List.append_assoc, List.singleton_append,
      Text.cutAt?_append_cons (by simpa using htail)]
  simp only [ofLine?, hcut, Option.map_some, hlast, List.reverse_reverse]

/-- The parts of a line hold no more terminators than the line. -/
theorem unbroken_write (h : ofLine? line = some quoted) (hline : line.Unbroken) {text : Text}
    (htext : Mended quoted.text text) : (quoted.write text).Unbroken := by
  obtain ⟨_, _, rest, rfl, hparts⟩ := of_ofLine? h
  have hreturn : '\r' ∉ text := by
    intro hmem
    have hcontent : '\r' ∉ quoted.content := by
      intro hmem
      have hrest := hparts '\r' (List.mem_append_left _ hmem)
      exact (hline '\r' (by simp [hrest])).1 rfl
    rcases htext.mem hmem with hmem | htouched
    · exact return_not_mem_unescape hcontent hmem
    · exact absurd htouched (by decide)
  intro c hc
  simp only [write, List.mem_append, List.mem_cons] at hc
  rcases hc with (hlead | rfl | hescape) | rfl | htail
  · exact hline c (List.mem_append_left _ hlead)
  · decide
  · exact unbroken_escape hreturn c hescape
  · decide
  · exact hline c (by simp [hparts c (List.mem_append_right _ htail)])

theorem ofLine?_append (line : Text) {more : Text} (hmore : '"' ∉ more) :
    ofLine? (line ++ more) = (ofLine? line).map (lengthen more) := by
  cases hcut : Text.cutAt? '"' line with
  | none =>
    have hline := Text.cutAt?_eq_none_iff.mp hcut
    have hcut' : Text.cutAt? '"' (line ++ more) = none := by
      rw [Text.cutAt?_eq_none_iff, List.mem_append, not_or]
      exact ⟨hline, hmore⟩
    simp only [ofLine?, hcut, hcut', Option.map_none]
  | some cut =>
    obtain ⟨lead, rest⟩ := cut
    obtain ⟨hlead, rfl⟩ := Text.of_cutAt? hcut
    have hlast : Text.cutAt? '"' (rest ++ more).reverse =
        (Text.cutAt? '"' rest.reverse).map fun cut ↦ (more.reverse ++ cut.1, cut.2) := by
      rw [List.reverse_append, Text.cutAt?_append (by simpa using hmore)]
    rw [List.append_assoc, List.cons_append]
    simp only [ofLine?, Text.cutAt?_append_cons hlead, Option.map_some, hlast]
    cases Text.cutAt? '"' rest.reverse with
    | none => rfl
    | some cut => simp [lengthen]

end QuotedLine

/-! ### Keywords -/

/-- No keyword goes on with such a character. -/
def endsKeyword (c : Char) : Bool := !isWordChar c && !isDigit c && c != '[' && c != ']'

theorem endsKeyword_iff {c : Char} : endsKeyword c = true ↔
    isWordChar c = false ∧ isDigit c = false ∧ c ≠ '[' ∧ c ≠ ']' := by
  simp [endsKeyword, and_assoc]

theorem endsKeyword_of_isSpace {c : Char} (h : isSpace c = true) : endsKeyword c = true := by
  let codes := [9, 10, 11, 12, 13, 28, 29, 30, 31, 32, 0x85, 0xa0, 0x1680, 0x2000, 0x2001, 0x2002,
    0x2003, 0x2004, 0x2005, 0x2006, 0x2007, 0x2008, 0x2009, 0x200a, 0x2028, 0x2029, 0x202f, 0x205f,
    0x3000]
  have hends : ∀ code ∈ codes, endsKeyword (Char.ofNat code) = true := by decide +kernel
  have hcode : c.toNat ∈ codes := by
    simp only [isSpace, Bool.or_eq_true, Bool.and_eq_true, decide_eq_true_eq, beq_iff_eq] at h
    simp only [codes, List.mem_cons, List.not_mem_nil]
    omega
  have hc := hends _ hcode
  rwa [Char.ofNat_toNat] at hc

namespace Keyword

variable {line more : Text}

theorem startsWithIndex_append (hmore : ∀ c ∈ more.head?, endsKeyword c = true) (line : Text) :
    startsWithIndex (line ++ more) = startsWithIndex line := by
  have hdigit : ∀ c ∈ more.head?, isDigit c = false := by
    intro c hc
    exact (endsKeyword_iff.mp (hmore c hc)).2.1
  have hopen : more.head? ≠ some '[' := fun h ↦ (endsKeyword_iff.mp (hmore _ h)).2.2.1 rfl
  have hclose : more.head? ≠ some ']' := fun h ↦ (endsKeyword_iff.mp (hmore _ h)).2.2.2 rfl
  have hhead (digits : Text) : ((digits ++ more).head?.any isDigit) = digits.head?.any isDigit := by
    cases digits with
    | nil =>
      cases more with
      | nil => rfl
      | cons c more => exact hdigit c rfl
    | cons d digits => rfl
  have hlast (rest : Text) : ((rest ++ more).head? == some ']') = (rest.head? == some ']') := by
    cases rest with
    | nil => simpa using hclose
    | cons d rest => rfl
  cases line with
  | nil =>
    cases more with
    | nil => rfl
    | cons c more =>
      have hc : c ≠ '[' := fun h ↦ hopen (congrArg some h)
      simp [startsWithIndex, hc]
  | cons x line =>
    by_cases hx : x = '['
    · subst hx
      simp only [startsWithIndex, List.cons_append, Text.dropWhile_append_of_stop hdigit, hhead,
        hlast]
    · simp [startsWithIndex, hx]

/-- The keyword of a line does not depend on what follows it. -/
theorem ofLine_append (hmore : ∀ c ∈ more.head?, endsKeyword c = true) (line : Text) :
    ofLine (line ++ more) = ofLine line := by
  have hword : ∀ c ∈ more.head?, isWordChar c = false := by
    intro c hc
    exact (endsKeyword_iff.mp (hmore c hc)).1
  simp only [ofLine, Text.takeWhile_append_of_stop hword, Text.dropWhile_append_of_stop hword,
    startsWithIndex_append hmore]

end Keyword

/-! ### Kinds of lines -/

namespace LineKind

variable {line line' : Text}

/-- The kind of a line whose quoted text is changed. -/
def mapQuoted (f : QuotedLine → QuotedLine) : LineKind → LineKind
  | keyword word quoted => keyword word (quoted.map f)
  | continuation quoted => continuation (f quoted)
  | kind => kind

theorem startsWith_of_location (h : ofLine line = .location) : "#:".toList <+: line := by
  rw [ofLine] at h
  split_ifs at h with hlocation hcomment hmsg
  · exact List.isPrefixOf_iff_prefix.mp hlocation
  · split at h
    · split_ifs at h
    · cases h

theorem of_keyword {word : Keyword} {quoted : Option QuotedLine}
    (h : ofLine line = .keyword word quoted) :
    Keyword.ofLine line = word ∧ QuotedLine.ofLine? line = quoted := by
  rw [ofLine] at h
  split_ifs at h with hlocation hcomment hmsg
  · exact LineKind.keyword.inj h
  · split at h
    · split_ifs at h
    · cases h

theorem ofLine?_of_continuation {quoted : QuotedLine} (h : ofLine line = .continuation quoted) :
    QuotedLine.ofLine? line = some quoted := by
  rw [ofLine] at h
  split_ifs at h with hlocation hcomment hmsg
  split at h
  · split_ifs at h
    rwa [← LineKind.continuation.inj h]
  · cases h

/-- Two lines are of one kind if they start with the same of a few words and before their quotes
there is the same. -/
theorem ofLine_eq_mapQuoted {f : QuotedLine → QuotedLine}
    (hstart : ∀ key ∈ ["#:".toList, "#".toList, "msg".toList],
      line'.startsWith key = line.startsWith key)
    (hkeyword : Keyword.ofLine line' = Keyword.ofLine line)
    (hquoted : QuotedLine.ofLine? line' = (QuotedLine.ofLine? line).map f)
    (hlead : ∀ quoted, (f quoted).lead = quoted.lead) :
    ofLine line' = (ofLine line).mapQuoted f := by
  simp only [List.forall_mem_cons] at hstart
  obtain ⟨hlocation, hcomment, hmsg, -⟩ := hstart
  rw [ofLine, ofLine, hlocation, hcomment, hmsg, hkeyword, hquoted]
  split_ifs
  · rfl
  · rfl
  · rfl
  · cases QuotedLine.ofLine? line with
    | none => rfl
    | some quoted =>
      simp only [Option.map_some, hlead]
      split_ifs <;> rfl

/-- White space after the end of a line lengthens its tail. -/
theorem ofLine_append_spaces (line : Text) {spaces : Text} (h : spaces.Spaces) :
    ofLine (line ++ spaces) = (ofLine line).mapQuoted (.lengthen spaces) := by
  have hhead : ∀ c ∈ spaces.head?, isSpace c = true := by
    intro c hc
    exact h c (List.mem_of_mem_head? hc)
  apply ofLine_eq_mapQuoted
  · have hsolid : ∀ key ∈ ["#:".toList, "#".toList, "msg".toList], key.any isSpace = false := by
      decide
    intro key hkey
    apply Text.startsWith_append
    intro c hc hmem
    exact List.any_eq_false.mp (hsolid key hkey) c hmem (hhead c hc)
  · apply Keyword.ofLine_append
    intro c hc
    exact endsKeyword_of_isSpace (hhead c hc)
  · apply QuotedLine.ofLine?_append
    intro hquote
    exact absurd (h _ hquote) (by decide)
  · intro quoted
    rfl

theorem ofLine_of_spaces (h : line.Spaces) : ofLine line = .foreign :=
  ofLine_append_spaces [] h

/-- A line with another text between its quotes is of the same kind. -/
theorem ofLine_write {quoted : QuotedLine} (h : QuotedLine.ofLine? line = some quoted)
    (text : Text) :
    ofLine (quoted.write text) =
      (ofLine line).mapQuoted fun quoted ↦ { quoted with content := escape text } := by
  obtain ⟨hlead, htail, rest, hline, _⟩ := QuotedLine.of_ofLine? h
  have hwrite : quoted.write text = quoted.lead ++ '"' :: (escape text ++ '"' :: quoted.tail) := by
    rw [QuotedLine.write, List.append_assoc, List.cons_append]
  have hkeyword (more : Text) : Keyword.ofLine (quoted.lead ++ '"' :: more) =
      Keyword.ofLine quoted.lead := by
    apply Keyword.ofLine_append
    rintro c ⟨⟩
    decide
  apply ofLine_eq_mapQuoted
  · have hquote : ∀ key ∈ ["#:".toList, "#".toList, "msg".toList], '"' ∉ key := by decide
    intro key hkey
    have hlead (more : Text) :
        Text.startsWith (quoted.lead ++ '"' :: more) key = quoted.lead.startsWith key := by
      apply Text.startsWith_append
      rintro c ⟨⟩
      exact hquote key hkey
    rw [hwrite, hlead, hline, hlead]
  · rw [hwrite, hkeyword, hline, hkeyword]
  · rw [QuotedLine.ofLine?_write hlead htail, h]
    rfl
  · intro quoted
    rfl

end LineKind

end Catalog

end CopyEditor
