import CopyEditor.Rule.Name
import CopyEditor.Proofs.Text.Edit
import CopyEditor.Proofs.Text.Tally
import CopyEditor.Proofs.Text.Word
import CopyEditor.Proofs.Typography.Runs

/-!
Which names a word was meant for. A word is near a name if one edit turns the name into it
(`oneEditApart_iff`) or if both have the same letters (`letterCounts_beq_iff`). To ask for a
distance below two comes to the same, since a word that is a name is not compared with any
(`candidatesBy_eq`). What is reported of a line are the near misses of its words
(`reports_eq_nearMisses`).
-/

set_option autoImplicit false
set_option relaxedAutoImplicit false

namespace CopyEditor

open Text (Edit MaximalRuns editDistance)

/-! ### One edit apart -/

theorem oneEditApart_cons_right (c : Char) (a : Text) : oneEditApart a (c :: a) = true := by
  induction a generalizing c with
  | nil => rfl
  | cons x a ih =>
    rw [oneEditApart]
    split
    · next hx => exact ih x
    · simp

theorem oneEditApart_cons_left (c : Char) (a : Text) : oneEditApart (c :: a) a = true := by
  induction a generalizing c with
  | nil => rfl
  | cons x a ih =>
    rw [oneEditApart]
    split
    · next hx => exact ih x
    · simp

theorem oneEditApart_append (lead : Text) {a b : Text} (h : oneEditApart a b = true) :
    oneEditApart (lead ++ a) (lead ++ b) = true := by
  induction lead with
  | nil => exact h
  | cons x lead ih =>
    rw [List.cons_append, List.cons_append, oneEditApart, if_pos rfl]
    exact ih

/-- Where the texts part, what is left of them is equal once a character has been replaced, inserted
or deleted. -/
theorem edit_of_oneEditApart {a b : Text} (h : oneEditApart a b = true) : Edit a b := by
  fun_induction oneEditApart a b with
  | case1 rest =>
    obtain ⟨c, rfl⟩ := List.length_eq_one_iff.mp (beq_iff_eq.mp h)
    exact .insertion [] c []
  | case2 rest =>
    obtain ⟨c, rfl⟩ := List.length_eq_one_iff.mp (beq_iff_eq.mp h)
    exact .deletion [] c []
  | case3 a x b ih => exact (ih h).cons x
  | case4 x a y b hne =>
    simp only [Bool.or_eq_true, beq_iff_eq] at h
    rcases h with (rfl | rfl) | rfl
    · exact .substitution [] hne a
    · exact .insertion [] y (x :: a)
    · exact .deletion [] x (y :: b)

theorem oneEditApart_iff {a b : Text} : oneEditApart a b = true ↔ Edit a b := by
  constructor
  · exact edit_of_oneEditApart
  · rintro (⟨lead, c, tail⟩ | ⟨lead, c, tail⟩ | ⟨lead, hne, tail⟩)
    · exact oneEditApart_append lead (oneEditApart_cons_right c tail)
    · exact oneEditApart_append lead (oneEditApart_cons_left c tail)
    · refine oneEditApart_append lead ?_
      simp [oneEditApart, hne]

theorem letterCounts_beq_iff {a b : Text} : (letterCounts a == letterCounts b) = true ↔ a.Perm b :=
  beq_iff_eq.trans Tally.ofList_eq_iff_perm

theorem nearlySpells_iff {word name : Text} :
    nearlySpells word name = true ↔ Edit name word ∨ name.Perm word := by
  rw [nearlySpells, Bool.or_eq_true, oneEditApart_iff, letterCounts_beq_iff]
  exact or_congr ⟨Edit.symm, Edit.symm⟩ (List.perm_comm)

/-! ### Spellings -/

/-- A listed name or its plural. -/
def Spells (names : List Text) (word : Text) : Prop :=
  ∃ name ∈ names, word = name ∨ word = name ++ ['s']

namespace NameList

variable {names : List Text} {word : Text}

theorem mem_foldl_insertName {spellings : List Text} :
    word ∈ names.foldl insertName spellings ↔ word ∈ spellings ∨ Spells names word := by
  induction names generalizing spellings with
  | nil => simp [Spells]
  | cons name names ih =>
    rw [List.foldl_cons, ih, insertName, mem_insertKey, mem_insertKey]
    simp only [Spells, List.exists_mem_cons_iff, or_assoc, or_left_comm]

theorem pairwise_foldl_insertName {spellings : List Text} (h : spellings.Pairwise (· < ·)) :
    (names.foldl insertName spellings).Pairwise (· < ·) := by
  induction names generalizing spellings with
  | nil => exact h
  | cons name names ih => exact ih (pairwise_insertKey (pairwise_insertKey h name) _)

theorem mem_ofNames (hnames : names ≠ []) :
    word ∈ (ofNames names).spellings ↔ Spells names word := by
  rw [ofNames, if_neg (by simpa using hnames), mem_foldl_insertName]
  simp

theorem pairwise_ofNames (names : List Text) : (ofNames names).spellings.Pairwise (· < ·) :=
  pairwise_foldl_insertName .nil

/-! ### Near misses -/

/-- Words that begin with a capital are checked, unless they are names or the misspelling rule
reports them already. -/
structure Checked (names : List Text) (word : Text) : Prop where
  capital : ∃ c ∈ word.head?, isUpper c = true
  unlisted : ¬Spells names word
  unreported : word ≠ "Sabre".toList ∧ word ≠ "Sabres".toList

/-- The names that a word misses by one edit or by the order of its letters, in code point order. -/
structure NearMisses (names : List Text) (word : Text) (misses : List Text) : Prop where
  ascending : misses.Pairwise (· < ·)
  mem_iff : ∀ name, name ∈ misses ↔
    Checked names word ∧ Spells names name ∧ (Edit name word ∨ name.Perm word)

theorem checked_iff (hnames : names ≠ []) : Checked names word ↔
    (!word.head?.any isUpper || (ofNames names).spellings.contains word ||
      reportedElsewhere.contains word) = false := by
  have hlisted : (ofNames names).spellings.contains word = false ↔ ¬Spells names word := by
    rw [← mem_ofNames hnames, ← List.contains_iff_mem, Bool.not_eq_true]
  have hreported : reportedElsewhere.contains word = false ↔
      word ≠ "Sabre".toList ∧ word ≠ "Sabres".toList := by
    rw [← Bool.not_eq_true, List.contains_iff_mem, reportedElsewhere]
    simp
  rw [Bool.or_eq_false_iff, Bool.or_eq_false_iff, Bool.not_eq_false', Option.any_eq_true,
    hlisted, hreported]
  exact ⟨fun ⟨hcapital, hunlisted, hunreported⟩ ↦ ⟨⟨hcapital, hunlisted⟩, hunreported⟩,
    fun ⟨⟨hcapital, hunlisted⟩, hunreported⟩ ↦ ⟨hcapital, hunlisted, hunreported⟩⟩

theorem nearMisses_candidates (hnames : names ≠ []) (word : Text) :
    NearMisses names word ((ofNames names).candidates word) where
  ascending := by
    rw [candidates]
    split
    · exact .nil
    · exact (pairwise_ofNames names).filter _
  mem_iff name := by
    rw [checked_iff hnames, candidates]
    split
    · next h =>
      rw [h]
      simp
    · next h =>
      rw [List.mem_filter, mem_ofNames hnames, nearlySpells_iff]
      exact (and_iff_right (Bool.eq_false_iff.mpr h)).symm

/-- The names that a word may have been meant for, compared by a distance below two. -/
def candidatesBy (distance : Text → Text → Nat) (names : NameList) (word : Text) : List Text :=
  if !word.head?.any isUpper then []
  else if names.spellings.contains word || reportedElsewhere.contains word then []
  else names.spellings.filter fun name ↦
    decide (distance word name < 2) || letterCounts word == letterCounts name

/-- The reports of a line if words are compared by a distance. -/
def reportsBy (distance : Text → Text → Nat) (names : NameList) (line : Text) : List Report :=
  (line.runs isNameChar).flatMap fun (column, word) ↦
    (names.candidatesBy distance word).map fun name ↦ ⟨.nearName word name, some column⟩

variable {distance : Text → Text → Nat} (hdistance : ∀ a b, distance a b = editDistance a b)

include hdistance

theorem candidatesBy_eq (names : NameList) (word : Text) :
    names.candidatesBy distance word = names.candidates word := by
  rw [candidatesBy, candidates, Bool.or_assoc]
  split
  · next h => simp [h]
  · next hcapital =>
    rw [Bool.eq_false_iff.mpr hcapital, Bool.false_or]
    split
    · rfl
    · next h =>
      -- equal words are at distance zero, but no word gets here that is among the names
      refine List.filter_congr fun name hname ↦ ?_
      have hne : word ≠ name := by
        rintro rfl
        exact h (by simp [hname])
      rw [nearlySpells, hdistance]
      congr 1
      rw [Bool.eq_iff_iff, decide_eq_true_iff, Text.editDistance_lt_two_iff hne, oneEditApart_iff]

theorem reportsBy_eq (names : NameList) (line : Text) :
    names.reportsBy distance line = names.reports line := by
  simp only [reportsBy, reports, candidatesBy_eq hdistance]

/-- What is reported of a line are the near misses of its words, each word from left to right and
its names in their order. -/
theorem reports_eq_nearMisses (hnames : names ≠ []) (line : Text) :
    (ofNames names).reportsBy distance line = (ofNames names).reports line ∧
      ((ofNames names).reports line).map Report.remark =
        ((line.runs isNameChar).flatMap fun (column, word) ↦
          ((ofNames names).candidates word).map fun name ↦
            ("is '".toList ++ word ++ "' supposed to be '".toList ++ name ++ "'".toList,
              some column)) ∧
      MaximalRuns isNameChar line (line.runs isNameChar) ∧
      ∀ word, NearMisses names word ((ofNames names).candidates word) := by
  refine ⟨reportsBy_eq hdistance _ line, ?_, Text.maximalRuns_runs isNameChar line,
    nearMisses_candidates hnames⟩
  rw [reports, List.map_flatMap]
  simp only [List.map_map]
  rfl

omit hdistance in
theorem reports_eq_nearMisses_arthur :
    ((ofNames ["Arthur".toList]).reportsBy editDistance "Artur voit Arhtur".toList).map
        Report.remark =
      [("is 'Artur' supposed to be 'Arthur'".toList, some 0),
        ("is 'Arhtur' supposed to be 'Arthur'".toList, some 11)] := by
  rw [(reports_eq_nearMisses (fun _ _ ↦ rfl) (List.cons_ne_nil _ _) _).1]
  decide

end NameList

end CopyEditor
