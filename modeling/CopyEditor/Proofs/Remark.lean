import CopyEditor.Diagnostic
import CopyEditor.Proofs.Wording
import CopyEditor.Rule.Book

/-!
The remarks of a reading: the messages about lines, without those about a file as a whole. A
message that ends with `(auto-fixed)` says that the text was mended, and exactly the mending
findings have such a message (`Finding.saysMended_message`).
-/

set_option autoImplicit false
set_option relaxedAutoImplicit false

namespace CopyEditor

/-- The message says of itself that the text was mended. -/
def saysMended (message : Text) : Bool := message.endsWith "(auto-fixed)".toList

section Endings

theorem endsWith_append_singleton_of_ne (text tail : Text) {c d : Char} (h : c ≠ d) :
    Text.endsWith (text ++ [c]) (tail ++ [d]) = false := by
  simp [Text.endsWith, List.isSuffixOf, List.isPrefixOf, Ne.symm h]

theorem saysMended_append_singleton (text : Text) {c : Char} (h : c ≠ ')') :
    saysMended (text ++ [c]) = false :=
  endsWith_append_singleton_of_ne text "(auto-fixed".toList h

theorem digitChar_ne_parenthesis {n : Nat} (h : n < 16) : n.digitChar ≠ ')' := by
  have (m : Fin 16) : Nat.digitChar m ≠ ')' := by decide +revert
  exact this ⟨n, h⟩

theorem saysMended_append_toDigits (text : Text) (n : Nat) :
    saysMended (text ++ Nat.toDigits 16 n) = false := by
  rw [Nat.toDigits_eq_if (by decide)]
  split
  · exact saysMended_append_singleton _ (digitChar_ne_parenthesis (by omega))
  · rw [← List.append_assoc]
    exact saysMended_append_singleton _ (digitChar_ne_parenthesis (Nat.mod_lt _ (by decide)))

end Endings

namespace Finding

theorem saysMended_message (finding : Finding) : saysMended finding.message = finding.isMended := by
  have hconstants : ∀ finding ∈ constants, saysMended finding.message = finding.isMended := by
    decide +kernel
  rcases finding.constants_cases with hfinding | ⟨c, rfl⟩ | ⟨word, name, rfl⟩
  · exact hconstants finding hfinding
  · exact saysMended_append_toDigits _ _
  · exact saysMended_append_singleton _ (by decide)

end Finding

/-- Nothing that is reported has been mended. -/
def Unmended (reports : List Report) : Prop := ∀ report ∈ reports, report.finding.isMended = false

namespace Unmended

variable {first second : List Report}

theorem nil : Unmended [] := by simp [Unmended]

theorem singleton {report : Report} (h : report.finding.isMended = false) : Unmended [report] := by
  simpa [Unmended] using h

theorem append (hfirst : Unmended first) (hsecond : Unmended second) :
    Unmended (first ++ second) := by
  simp only [Unmended, List.forall_mem_append]
  exact ⟨hfirst, hsecond⟩

theorem ite {p : Prop} [Decidable p] (hfirst : Unmended first) (hsecond : Unmended second) :
    Unmended (if p then first else second) := by
  split
  · exact hfirst
  · exact hsecond

theorem filter_findings (h : Unmended first) :
    (first.map (·.finding)).filter (fun finding ↦ !finding.isMended) = first.map (·.finding) := by
  rw [List.filter_eq_self]
  simpa [Unmended] using h

end Unmended

namespace Revision

/-- What a fixer found, from left to right. -/
def findings (revision : Revision) : List Finding := revision.reports.map (·.finding)

@[simp] theorem findings_mk (line : Text) (reports : List Report) :
    findings ⟨line, reports⟩ = reports.map (·.finding) := rfl

@[simp] theorem findings_andThen (first : Revision) (fixer : Text → Revision) :
    (first.andThen fixer).findings = first.findings ++ (fixer first.line).findings := by
  simp [Revision.andThen, findings]

/-- A choice of reports by what they found is a choice of findings. -/
theorem findings_filter (line : Text) (revision : Revision) (p : Finding → Bool) :
    (⟨line, revision.reports.filter fun report ↦ p report.finding⟩ : Revision).findings =
      revision.findings.filter p := by
  simp only [findings, List.filter_map, Function.comp_def]

end Revision

/-- The rules of a book find this. -/
def Finding.isOfRules : Finding → Bool
  | style _ | nearName _ _ => true
  | _ => false

namespace RuleBook

/-- The rules find style faults and near names. -/
theorem mem_reports {book : RuleBook} {line : Text} {report : Report}
    (h : report ∈ book.reports line) :
    (∃ rule, report.finding = .style rule) ∨ ∃ word name, report.finding = .nearName word name := by
  obtain ⟨rule, _, hreport⟩ := List.mem_flatMap.mp h
  cases rule with
  | style rule =>
    obtain ⟨column, _, rfl⟩ := List.mem_map.mp hreport
    exact .inl ⟨rule, rfl⟩
  | names names =>
    obtain ⟨word, _, hreport⟩ := List.mem_flatMap.mp hreport
    obtain ⟨name, _, rfl⟩ := List.mem_map.mp hreport
    exact .inr ⟨_, name, rfl⟩

theorem isOfRules_of_mem_reports {book : RuleBook} {line : Text} {report : Report}
    (h : report ∈ book.reports line) : report.finding.isOfRules = true := by
  rcases mem_reports h with ⟨rule, hfinding⟩ | ⟨word, name, hfinding⟩ <;> rw [hfinding] <;> rfl

theorem unmended_reports (book : RuleBook) (line : Text) : Unmended (book.reports line) := by
  intro report hreport
  rcases mem_reports hreport with ⟨rule, hfinding⟩ | ⟨word, name, hfinding⟩ <;>
    rw [hfinding] <;> rfl

end RuleBook

namespace Diagnostic

/-- What was found on lines, in order. -/
def findings (diagnostics : List (Diagnostic Finding)) : List Finding :=
  (diagnostics.filter fun d ↦ d.severity = .style).map (·.message)

/-- The messages of the remarks on lines, in order. -/
def remarks (diagnostics : List (Diagnostic Finding)) : List Text :=
  (findings diagnostics).map Finding.message

/-- A message of its own is there if the finding is. -/
theorem message_mem_remarks_iff {finding : Finding} (h : finding ∈ Finding.constants)
    {diagnostics : List (Diagnostic Finding)} :
    finding.message ∈ remarks diagnostics ↔ finding ∈ findings diagnostics := by
  simp only [remarks, List.mem_map, Finding.message_eq_iff finding h, exists_eq_right]

@[simp] theorem findings_nil : findings [] = [] := rfl

@[simp] theorem findings_append (first second : List (Diagnostic Finding)) :
    findings (first ++ second) = findings first ++ findings second := by
  simp [findings]

@[simp] theorem findings_notes (place : Place) (reports : List Report) :
    findings (place.notes reports) = reports.map (·.finding) := by
  induction reports with
  | nil => rfl
  | cons report reports ih =>
    simpa [findings, Place.notes, Place.note, Place.locate] using ih

@[simp] theorem findings_ofFile (place : Place) (remarks : List Finding) :
    findings (remarks.map place.ofFile) = [] := by
  simp [findings, Place.ofFile]

/-- The messages that do not speak of mending are those of the findings that mend nothing. -/
theorem remarks_filter_saysMended (diagnostics : List (Diagnostic Finding)) :
    (remarks diagnostics).filter (fun message ↦ !saysMended message) =
      ((findings diagnostics).filter fun finding ↦ !finding.isMended).map Finding.message := by
  simp only [remarks, List.filter_map, Function.comp_def, Finding.saysMended_message]

/-- A remark on the line that the place shows, and on its page. -/
structure IsRemarkAt (d : Diagnostic Finding) (place : Place) : Prop where
  severity : d.severity = .style
  line : d.line = some place.line
  page : d.page = place.page

theorem isRemarkAt_of_mem_notes {place : Place} {reports : List Report} {d : Diagnostic Finding}
    (hd : d ∈ place.notes reports) : d.IsRemarkAt place := by
  obtain ⟨report, _, rfl⟩ := List.mem_map.mp hd
  exact ⟨rfl, rfl, rfl⟩

end Diagnostic

end CopyEditor
