import CopyEditor.Text.Digit
import Mathlib.Computability.Language
import Mathlib.Order.CompletePartialOrder

/-!
The order of the lines of a catalog, as a regular language over marks and as an automaton. A mark
is a location, a keyword by its name, or a continuation. In a catalog, anything may come before the
first location; then there are entries, and perhaps locations after them (`Grammar.catalog`).

The phases of the automaton are the parts of an entry. Each phase has the language of what may still
follow (`Phase.language`): a mark takes it on to the language of the next phase, if there is one
(`Phase.cons_mem_language`), and a phase is final if nothing more has to follow
(`Phase.nil_mem_language`).
-/

set_option autoImplicit false
set_option relaxedAutoImplicit false

namespace CopyEditor.Catalog

open scoped Computability

/-- What a line is to the order of entries. -/
inductive Mark where
  | location
  | keyword (name : Text)
  | continuation
  deriving DecidableEq, Repr

/-- The names of the plural forms of a target. -/
def IsFormName (name : Text) : Prop :=
  name = "msgstr_plural".toList ∨
    ∃ digits, Text.isNumeral digits = true ∧ name = "msgstr[".toList ++ digits ++ [']']

instance : DecidablePred IsFormName := fun name ↦
  let digits := (name.drop 7).dropLast
  decidable_of_iff
    (name = "msgstr_plural".toList ∨
      Text.isNumeral digits = true ∧ name = "msgstr[".toList ++ digits ++ [']'])
    (or_congr_right
      ⟨fun h ↦ ⟨_, h⟩, by
        rintro ⟨digits', h, rfl⟩
        have hdigits : digits = digits' := by
          simp only [digits, List.append_assoc]
          exact List.dropLast_concat
        rw [hdigits]
        exact ⟨h, rfl⟩⟩)

/-! ### The grammar -/

namespace Grammar

/-- One mark of a kind. -/
def one (kind : Mark → Prop) : Language Mark := {marks | ∃ mark, kind mark ∧ marks = [mark]}

def location : Language Mark := one (· = .location)

def continuation : Language Mark := one (· = .continuation)

def keyword (name : String) : Language Mark := one (· = .keyword name.toList)

def anyKeyword : Language Mark := one fun mark ↦ ∃ name, mark = .keyword name

def targetForm : Language Mark := one fun mark ↦ ∃ name, IsFormName name ∧ mark = .keyword name

/-- What follows the source text of an entry: a target; a source text in the plural, and then a
target or its plural forms; or the plural forms alone. -/
def body : Language Mark :=
  continuation∗ * keyword "msgstr" * continuation∗ +
    (continuation + keyword "msgid_plural")∗ * keyword "msgid_plural" *
      (continuation + keyword "msgid_plural")∗ *
      (keyword "msgstr" + targetForm) * (continuation + targetForm)∗ +
    continuation∗ * targetForm * (continuation + targetForm)∗

/-- What follows the locations of an entry. -/
def texts : Language Mark :=
  (1 + keyword "msgctxt" * continuation∗) * keyword "msgid" * body

def entry : Language Mark := location * location∗ * texts

def catalog : Language Mark := (anyKeyword + continuation)∗ * entry∗ * location∗

/-! ### Marks one by one -/

section Marks

variable {kind kind' : Mark → Prop} {l m : Language Mark} {mark : Mark} {marks : List Mark}

theorem one_add_one : one kind + one kind' = one fun mark ↦ kind mark ∨ kind' mark := by
  ext marks
  simp only [Language.mem_add]
  constructor
  · rintro (⟨mark, hkind, rfl⟩ | ⟨mark, hkind, rfl⟩)
    · exact ⟨mark, .inl hkind, rfl⟩
    · exact ⟨mark, .inr hkind, rfl⟩
  · rintro ⟨mark, hkind | hkind, rfl⟩
    · exact .inl ⟨mark, hkind, rfl⟩
    · exact .inr ⟨mark, hkind, rfl⟩

theorem cons_mem_one_mul : mark :: marks ∈ one kind * l ↔ kind mark ∧ marks ∈ l := by
  rw [Language.mem_mul]
  constructor
  · rintro ⟨_, ⟨first, hkind, rfl⟩, rest, hrest, heq⟩
    obtain ⟨rfl, rfl⟩ := List.cons.inj heq
    exact ⟨hkind, hrest⟩
  · rintro ⟨hkind, hmarks⟩
    exact ⟨[mark], ⟨mark, hkind, rfl⟩, marks, hmarks, rfl⟩

theorem nil_notMem_one_mul : [] ∉ one kind * l := by
  rw [Language.mem_mul]
  rintro ⟨_, ⟨first, _, rfl⟩, rest, _, heq⟩
  cases heq

/-- A repetition comes to its end, or goes on for one more mark. -/
theorem kstar_mul_eq (l m : Language Mark) : l∗ * m = m + l * (l∗ * m) := by
  conv_lhs => rw [← one_add_mul_kstar, add_mul, one_mul, mul_assoc]

/-- What a repetition may repeat adds nothing between two repetitions. -/
theorem kstar_absorbs {l m n : Language Mark} (h : l ≤ m) : m∗ * (l * (m∗ * n)) ≤ m∗ * n := by
  have hrepeat : m * (m∗ * n) ≤ m∗ * n := by
    grw [← mul_assoc, mul_kstar_le_kstar]
  have hone : l * (m∗ * n) ≤ m∗ * n := by
    grw [h, hrepeat]
  exact kstar_mul_le hone hrepeat

theorem cons_mem_kstar_mul : mark :: marks ∈ (one kind)∗ * l ↔
    kind mark ∧ marks ∈ (one kind)∗ * l ∨ mark :: marks ∈ l := by
  rw [kstar_mul_eq, Language.mem_add, cons_mem_one_mul, ← kstar_mul_eq, or_comm]

theorem nil_mem_kstar_mul : [] ∈ (one kind)∗ * l ↔ [] ∈ l := by
  rw [kstar_mul_eq, Language.mem_add, or_iff_left nil_notMem_one_mul]

end Marks

end Grammar

/-! ### The automaton -/

/-- What an entry has come to. In the plural phases a plural form was seen, and more may follow. -/
inductive Phase where
  | prelude
  | location
  | context
  | source
  | pluralSource
  | target
  | pluralTarget
  deriving DecidableEq, Repr

namespace Phase

open Grammar

/-- The phase that a mark leads to, unless it is out of order. -/
def next? : Phase → Mark → Option Phase
  | prelude, .location | location, .location | target, .location | pluralTarget, .location =>
    some location
  | context, .location | source, .location | pluralSource, .location => none
  | location, .continuation => none
  | phase, .continuation => some phase
  | prelude, .keyword _ => some prelude
  | location, .keyword name =>
    if name = "msgctxt".toList then some context
    else if name = "msgid".toList then some source
    else none
  | context, .keyword name => if name = "msgid".toList then some source else none
  | source, .keyword name =>
    if name = "msgstr".toList then some target
    else if name = "msgid_plural".toList then some pluralSource
    else if IsFormName name then some pluralTarget
    else none
  | pluralSource, .keyword name =>
    if name = "msgstr".toList then some pluralTarget
    else if name = "msgid_plural".toList then some pluralSource
    else if IsFormName name then some pluralTarget
    else none
  | target, .keyword _ => none
  | pluralTarget, .keyword name => if IsFormName name then some pluralTarget else none

/-- The text may end here. -/
def isFinal : Phase → Bool
  | prelude | location | target | pluralTarget => true
  | context | source | pluralSource => false

/-- Entries, and perhaps locations after them. -/
def entries : Language Mark := entry∗ * Grammar.location∗

/-- What may still follow. -/
def language : Phase → Language Mark
  | prelude => (anyKeyword + continuation)∗ * entries
  | location => Grammar.location∗ * (1 + texts * entries)
  | context => continuation∗ * (keyword "msgid" * (body * entries))
  | source => body * entries
  | pluralSource =>
    (continuation + keyword "msgid_plural")∗ *
      ((keyword "msgstr" + targetForm) * ((continuation + targetForm)∗ * entries))
  | target => continuation∗ * entries
  | pluralTarget => (continuation + targetForm)∗ * entries

theorem language_prelude : prelude.language = catalog := by
  simp only [language, catalog, entries, mul_assoc]

/-- If there is anything to come, it starts with a location. -/
theorem entries_eq : entries = 1 + Grammar.location * location.language := by
  have hentries : entries = Grammar.location∗ + entry * entries := kstar_mul_eq entry _
  have hlocations : Grammar.location∗ = 1 + Grammar.location * Grammar.location∗ :=
    one_add_mul_kstar.symm
  calc entries = Grammar.location∗ + entry * entries := hentries
    _ = 1 + Grammar.location * Grammar.location∗ +
          Grammar.location * Grammar.location∗ * texts * entries := by
        rw [entry, ← hlocations]
    _ = 1 + Grammar.location * location.language := by
        simp only [language, mul_add, mul_one, mul_assoc, add_assoc]

section Derivatives

variable {mark : Mark} {marks : List Mark}

theorem nil_mem_entries : [] ∈ entries := by
  rw [entries_eq]
  exact .inl rfl

theorem cons_mem_entries :
    mark :: marks ∈ entries ↔ mark = .location ∧ marks ∈ location.language := by
  rw [entries_eq, Language.mem_add, Grammar.location, cons_mem_one_mul, Language.mem_one]
  exact or_iff_right (List.cons_ne_nil mark marks)

/-- One plural source text more makes no difference. -/
theorem pluralSource_absorbs :
    (continuation + keyword "msgid_plural")∗ * (keyword "msgid_plural" * pluralSource.language) ≤
      pluralSource.language := by
  have hkeyword : keyword "msgid_plural" ≤ continuation + keyword "msgid_plural" := fun _ ↦ .inr
  simp only [language]
  exact kstar_absorbs hkeyword

theorem source_eq : source.language =
    continuation∗ * (keyword "msgstr" * target.language) +
      (continuation + keyword "msgid_plural")∗ *
        (keyword "msgid_plural" * pluralSource.language) +
      continuation∗ * (targetForm * pluralTarget.language) := by
  simp only [language, body, add_mul, mul_assoc]

theorem cons_mem_source : mark :: marks ∈ source.language ↔
    mark = .continuation ∧ marks ∈ source.language ∨
      mark = .keyword "msgstr".toList ∧ marks ∈ target.language ∨
      mark = .keyword "msgid_plural".toList ∧ marks ∈ pluralSource.language ∨
      (∃ name, IsFormName name ∧ mark = .keyword name) ∧ marks ∈ pluralTarget.language := by
  have habsorbs : marks ∈ (continuation + keyword "msgid_plural")∗ *
      (keyword "msgid_plural" * pluralSource.language) → marks ∈ pluralSource.language :=
    fun h ↦ pluralSource_absorbs h
  rw [source_eq]
  generalize target.language = afterTarget, pluralTarget.language = afterForm at *
  generalize pluralSource.language = afterPlural at *
  simp only [continuation, keyword, targetForm, one_add_one] at habsorbs ⊢
  simp only [Language.mem_add, cons_mem_kstar_mul, cons_mem_one_mul]
  cases mark with
  | location => simp
  | continuation => simp [or_assoc]
  | keyword name =>
    simp only [reduceCtorEq, false_and, false_or]
    rw [← and_or_left, or_iff_right_of_imp habsorbs, or_assoc]

theorem cons_mem_location : mark :: marks ∈ location.language ↔
    mark = .location ∧ marks ∈ location.language ∨
      mark = .keyword "msgid".toList ∧ marks ∈ source.language ∨
      mark = .keyword "msgctxt".toList ∧ marks ∈ context.language := by
  simp only [language, texts, Grammar.location, keyword, mul_assoc, add_mul, one_mul,
    cons_mem_kstar_mul, cons_mem_one_mul, Language.mem_add, Language.mem_one, reduceCtorEq,
    false_or]

theorem cons_mem_prelude : mark :: marks ∈ prelude.language ↔
    (∃ name, mark = .keyword name) ∧ marks ∈ prelude.language ∨
      mark = .continuation ∧ marks ∈ prelude.language ∨
      mark = .location ∧ marks ∈ location.language := by
  have h : mark :: marks ∈ entries ↔ _ := cons_mem_entries
  generalize location.language = afterLocation at *
  simp only [language, anyKeyword, continuation, one_add_one, cons_mem_kstar_mul, h, or_and_right,
    or_assoc]

theorem cons_mem_context : mark :: marks ∈ context.language ↔
    mark = .continuation ∧ marks ∈ context.language ∨
      mark = .keyword "msgid".toList ∧ marks ∈ source.language := by
  simp only [language, continuation, keyword, cons_mem_kstar_mul, cons_mem_one_mul]

theorem cons_mem_pluralSource : mark :: marks ∈ pluralSource.language ↔
    mark = .continuation ∧ marks ∈ pluralSource.language ∨
      mark = .keyword "msgid_plural".toList ∧ marks ∈ pluralSource.language ∨
      mark = .keyword "msgstr".toList ∧ marks ∈ pluralTarget.language ∨
      (∃ name, IsFormName name ∧ mark = .keyword name) ∧ marks ∈ pluralTarget.language := by
  simp only [language, continuation, keyword, targetForm, one_add_one, cons_mem_kstar_mul,
    cons_mem_one_mul, or_and_right, or_assoc]

theorem cons_mem_target : mark :: marks ∈ target.language ↔
    mark = .continuation ∧ marks ∈ target.language ∨
      mark = .location ∧ marks ∈ location.language := by
  have h : mark :: marks ∈ entries ↔ _ := cons_mem_entries
  generalize location.language = afterLocation at *
  simp only [language, continuation, cons_mem_kstar_mul, h]

theorem cons_mem_pluralTarget : mark :: marks ∈ pluralTarget.language ↔
    mark = .continuation ∧ marks ∈ pluralTarget.language ∨
      (∃ name, IsFormName name ∧ mark = .keyword name) ∧ marks ∈ pluralTarget.language ∨
      mark = .location ∧ marks ∈ location.language := by
  have h : mark :: marks ∈ entries ↔ _ := cons_mem_entries
  generalize location.language = afterLocation at *
  simp only [language, continuation, targetForm, one_add_one, cons_mem_kstar_mul, h, or_and_right,
    or_assoc]

/-- A mark leaves what may still follow in the phase that it leads to. -/
theorem cons_mem_language (phase : Phase) : mark :: marks ∈ phase.language ↔
    ∃ next, phase.next? mark = some next ∧ marks ∈ next.language := by
  have hsource : ¬IsFormName "msgid_plural".toList := by decide
  have htarget : ¬IsFormName "msgstr".toList := by decide
  cases phase with
  | prelude =>
    rw [cons_mem_prelude]
    cases mark <;> simp [next?]
  | location =>
    rw [cons_mem_location]
    cases mark with
    | location | continuation => simp [next?]
    | keyword name =>
      simp only [next?]
      split_ifs <;> simp_all
  | context =>
    rw [cons_mem_context]
    cases mark with
    | location | continuation => simp [next?]
    | keyword name =>
      simp only [next?]
      split_ifs <;> simp_all
  | source =>
    rw [cons_mem_source]
    cases mark with
    | location | continuation => simp [next?]
    | keyword name =>
      simp only [next?]
      split_ifs <;> simp_all
  | pluralSource =>
    rw [cons_mem_pluralSource]
    cases mark with
    | location | continuation => simp [next?]
    | keyword name =>
      simp only [next?]
      split_ifs <;> simp_all
  | target =>
    rw [cons_mem_target]
    cases mark <;> simp [next?]
  | pluralTarget =>
    rw [cons_mem_pluralTarget]
    cases mark with
    | location | continuation => simp [next?]
    | keyword name =>
      simp only [next?]
      split_ifs <;> simp_all

theorem nil_mem_language (phase : Phase) : [] ∈ phase.language ↔ phase.isFinal = true := by
  have hone (l : Language Mark) : [] ∈ 1 + l := .inl rfl
  cases phase with
  | prelude | target | pluralTarget =>
    simp only [language, anyKeyword, continuation, targetForm, one_add_one, nil_mem_kstar_mul,
      nil_mem_entries, isFinal]
  | location => simp only [language, Grammar.location, nil_mem_kstar_mul, hone, isFinal]
  | context | pluralSource =>
    simp only [language, continuation, keyword, targetForm, one_add_one, nil_mem_kstar_mul,
      nil_notMem_one_mul, isFinal, Bool.false_eq_true]
  | source =>
    rw [source_eq]
    simp only [continuation, keyword, targetForm, one_add_one, Language.mem_add,
      nil_mem_kstar_mul, nil_notMem_one_mul, or_self, isFinal, Bool.false_eq_true]

end Derivatives

end Phase

end CopyEditor.Catalog
