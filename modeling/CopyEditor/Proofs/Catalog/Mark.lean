import CopyEditor.Proofs.Catalog.Grammar
import CopyEditor.Proofs.Catalog.Quoted

/-!
The marks of lines. A line that starts with a keyword has the keyword's name as its mark, and what
the keyword is to the reading depends on its name alone (`Keyword.ofLine_eq_ofName`). Comments and
foreign lines have no mark.
-/

set_option autoImplicit false
set_option relaxedAutoImplicit false

namespace CopyEditor.Catalog

/-- The keyword that a line starts with: its word characters, and a number in brackets if one
follows at once. -/
def keywordName (line : Text) : Text :=
  let rest := line.dropWhile isWordChar
  line.takeWhile isWordChar ++
    if Keyword.startsWithIndex rest then '[' :: (rest.drop 1).takeWhile isDigit ++ [']'] else []

def Mark.ofLine? (line : Text) : Option Mark :=
  if line.startsWith "#:".toList then some location
  else if line.startsWith "#".toList then none
  else if line.startsWith "msg".toList then some (keyword (keywordName line))
  else match line.cutAt? '"' with
    | some (lead, _) => if lead.allBlank then some continuation else none
    | none => none

/-- The marks of the lines that have one. -/
def marks (lines : List Text) : List Mark := lines.filterMap Mark.ofLine?

section Marks

variable {line : Text} (lines : List Text)

@[simp] theorem marks_nil : marks [] = [] := rfl

theorem marks_cons_of_none (h : Mark.ofLine? line = none) : marks (line :: lines) = marks lines :=
  List.filterMap_cons_none h

theorem marks_cons_of_some {mark : Mark} (h : Mark.ofLine? line = some mark) :
    marks (line :: lines) = mark :: marks lines :=
  List.filterMap_cons_some h

end Marks

namespace Keyword

/-- What a keyword is by its name. -/
def ofName (name : Text) : Keyword :=
  if name = "msgctxt".toList then context
  else if name = "msgid".toList then source
  else if name = "msgid_plural".toList then pluralSource
  else if name = "msgstr".toList then target
  else if IsFormName name then targetForm
  else unknown

theorem ofName_eq_context_iff {name : Text} :
    ofName name = context ↔ name = "msgctxt".toList := by
  unfold ofName
  split_ifs <;> simp_all

theorem ofName_eq_source_iff {name : Text} : ofName name = source ↔ name = "msgid".toList := by
  unfold ofName
  split_ifs <;> simp_all

theorem ofName_eq_target_iff {name : Text} : ofName name = target ↔ name = "msgstr".toList := by
  unfold ofName
  split_ifs <;> simp_all

theorem ofName_eq_targetForm_iff {name : Text} : ofName name = targetForm ↔ IsFormName name := by
  have hothers : ∀ other ∈ ["msgctxt", "msgid", "msgid_plural", "msgstr"],
      ¬IsFormName other.toList := by decide
  unfold ofName
  split_ifs <;> simp_all

theorem isNumeral_of_startsWithIndex {rest : Text} (h : startsWithIndex rest = true) :
    Text.isNumeral ((rest.drop 1).takeWhile isDigit) = true := by
  cases rest with
  | nil => simp [startsWithIndex] at h
  | cons c rest =>
    by_cases hc : c = '['
    · subst hc
      simp only [startsWithIndex, Bool.and_eq_true] at h
      cases rest with
      | nil => simp at h
      | cons d rest =>
        have hd : isDigit d = true := by simpa using h.1
        simp [Text.isNumeral, hd]
    · simp [startsWithIndex, hc] at h

section OfName

variable {word digits : Text}

theorem takeWhile_append_bracket (hword : ∀ c ∈ word, isWordChar c = true) (rest : Text) :
    (word ++ '[' :: rest).takeWhile isWordChar = word := by
  rw [List.takeWhile_append_of_pos hword, List.takeWhile_cons_of_neg (by decide),
    List.append_nil]

/-- A name with a number in brackets is the name of a form, if the word before is `msgstr`. -/
theorem isFormName_append_index (hword : ∀ c ∈ word, isWordChar c = true)
    (hdigits : Text.isNumeral digits = true) :
    IsFormName (word ++ ('[' :: digits ++ [']'])) ↔ word = "msgstr".toList := by
  constructor
  · rintro (hplural | ⟨digits', _, hindex⟩)
    · have hbracket : '[' ∈ "msgstr_plural".toList := by simp [← hplural]
      exact absurd hbracket (by decide)
    · have hmsgstr : ∀ c ∈ "msgstr".toList, isWordChar c = true :=
        List.all_eq_true.mp (by decide)
      have h := congrArg (List.takeWhile isWordChar) hindex
      have hsplit : "msgstr[".toList ++ digits' ++ [']'] =
          "msgstr".toList ++ '[' :: (digits' ++ [']']) := by simp
      rwa [List.cons_append, takeWhile_append_bracket hword, hsplit,
        takeWhile_append_bracket hmsgstr] at h
  · rintro rfl
    exact .inr ⟨digits, hdigits, by simp⟩

theorem isFormName_iff_of_word (hword : ∀ c ∈ word, isWordChar c = true) :
    IsFormName word ↔ word = "msgstr_plural".toList := by
  refine or_iff_left ?_
  rintro ⟨digits, _, rfl⟩
  exact absurd (hword '[' (by simp)) (by decide)

end OfName

/-- The reading tells keywords apart by their names. -/
theorem ofLine_eq_ofName (line : Text) : ofLine line = ofName (keywordName line) := by
  have hword : ∀ c ∈ line.takeWhile isWordChar, isWordChar c = true :=
    fun _ ↦ List.mem_takeWhile_imp
  cases hindex : startsWithIndex (line.dropWhile isWordChar) with
  | true =>
    have hname : keywordName line = line.takeWhile isWordChar ++
        ('[' :: ((line.dropWhile isWordChar).drop 1).takeWhile isDigit ++ [']']) := by
      rw [keywordName, if_pos hindex]
    have hform := isFormName_append_index hword (isNumeral_of_startsWithIndex hindex)
    have hne {name : Text} (hbracket : '[' ∉ name) : keywordName line ≠ name := by
      rintro rfl
      exact hbracket (by simp [hname])
    rw [← hname] at hform
    simp only [ofLine, hindex, if_true, ofName, hform, hne (by decide : '[' ∉ "msgctxt".toList),
      hne (by decide : '[' ∉ "msgid".toList), hne (by decide : '[' ∉ "msgid_plural".toList),
      hne (by decide : '[' ∉ "msgstr".toList), if_false]
  | false =>
    have hname : keywordName line = line.takeWhile isWordChar := by
      rw [keywordName, if_neg (Bool.eq_false_iff.mp hindex), List.append_nil]
    have hform := isFormName_iff_of_word hword
    simp only [ofLine, hindex, Bool.false_eq_true, if_false, ofName, hname, hform]

end Keyword

/-- The mark of a line goes by its kind. -/
theorem Mark.ofLine?_eq (line : Text) : Mark.ofLine? line =
    match LineKind.ofLine line with
    | .location => some .location
    | .keyword _ _ => some (.keyword (keywordName line))
    | .continuation _ => some .continuation
    | .comment | .foreign => none := by
  unfold Mark.ofLine? LineKind.ofLine
  split_ifs
  · rfl
  · rfl
  · rfl
  · rw [QuotedLine.ofLine?]
    cases Text.cutAt? '"' line with
    | none => rfl
    | some cut =>
      obtain ⟨lead, rest⟩ := cut
      simp only [Option.map_some]
      cases Text.cutAt? '"' rest.reverse <;> (dsimp only; split_ifs <;> rfl)

end CopyEditor.Catalog
