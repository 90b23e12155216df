import CopyEditor.Proofs.Caret
import CopyEditor.Proofs.Scenario.Run

/-!
Where the diagnostics of a scenario are located. A page marker is recognised by its shape alone
(`isMarker_iff`), and the reading always stands on the page of the last one (`standsAfter_step`). So
every remark on a line has the number of a line and the page on which that line ends, and the
remarks come in the order of their lines; only a remark on the file as a whole comes before them
(`located_readText`).
-/

set_option autoImplicit false
set_option relaxedAutoImplicit false

namespace CopyEditor.Scenario

open Diagnostic

/-! ### Page markers -/

/-- The line marks a page by this row of digits: it stands between the mark and the first bar; or
the line has no bar, and the row is as long as it can be. -/
inductive IsMarker : Text → Text → Prop
  | titled {id title : Text} (hid : id.isNumeral = true) :
      IsMarker (pageMark ++ (id ++ '|' :: title)) id
  | plain {id rest : Text} (hid : id.isNumeral = true) (hbar : '|' ∉ rest)
      (hrest : ∀ c ∈ rest.head?, isDigit c = false) : IsMarker (pageMark ++ (id ++ rest)) id

/-- The page after some lines: one on from the last marker, or zero if there is none. -/
inductive PageAfter (lines : List Text) : Int → Prop
  | unmarked (h : ∀ line ∈ lines, ∀ id, ¬IsMarker line id) : PageAfter lines 0
  | marked {before later : List Text} {line id : Text} (hlines : lines = before ++ line :: later)
      (hmarker : IsMarker line id) (hlater : ∀ next ∈ later, ∀ id, ¬IsMarker next id) :
      PageAfter lines (id.toNumber + 1)

section Markers

variable {line id : Text}

theorem notMem_of_isNumeral {c : Char} (hc : isDigit c = false) (h : id.isNumeral = true) :
    c ∉ id := by
  intro hmem
  simp only [Text.isNumeral, Bool.and_eq_true, List.all_eq_true] at h
  rw [h.2 c hmem] at hc
  cases hc

theorem pageNumeral_append (rest : Text) : pageNumeral (pageMark ++ rest) =
    match Text.cutAt? '|' rest with
    | some (id, _) => id
    | none => rest.takeWhile isDigit := by
  rw [pageNumeral, Text.cutAt?_append (by decide)]
  cases Text.cutAt? '|' rest with
  | none => rw [Option.map_none, List.drop_left]
  | some cut =>
    obtain ⟨id, title⟩ := cut
    exact List.drop_left

theorem pageNumeral_of_isMarker (h : IsMarker line id) : pageNumeral line = id := by
  cases h with
  | titled hid =>
    rw [pageNumeral_append, Text.cutAt?_append_cons (notMem_of_isNumeral (by decide) hid)]
  | @plain _ rest hid hbar hrest =>
    have hnone : Text.cutAt? '|' (id ++ rest) = none := by
      rw [Text.cutAt?_eq_none_iff, List.mem_append, not_or]
      exact ⟨notMem_of_isNumeral (by decide) hid, hbar⟩
    simp only [Text.isNumeral, Bool.and_eq_true, List.all_eq_true] at hid
    rw [pageNumeral_append, hnone, Text.takeWhile_append_of_stop hrest]
    exact List.takeWhile_eq_self_iff.mpr hid.2

theorem startsWith_of_isMarker (h : IsMarker line id) : line.startsWith pageMark = true := by
  rw [Text.startsWith, List.isPrefixOf_iff_prefix]
  cases h <;> exact List.prefix_append _ _

/-- A line is a marker if the reading takes it for one. -/
theorem isMarker_iff : IsMarker line id ↔
    line.startsWith pageMark = true ∧ pageNumeral line = id ∧ id.isNumeral = true := by
  constructor
  · intro h
    refine ⟨startsWith_of_isMarker h, pageNumeral_of_isMarker h, ?_⟩
    cases h <;> assumption
  · rintro ⟨hmark, rfl, hid⟩
    obtain ⟨rest, rfl⟩ := List.isPrefixOf_iff_prefix.mp hmark
    rw [pageNumeral_append] at hid ⊢
    cases hcut : Text.cutAt? '|' rest with
    | some cut =>
      obtain ⟨id, title⟩ := cut
      obtain ⟨-, rfl⟩ := Text.of_cutAt? hcut
      rw [hcut] at hid
      exact .titled hid
    | none =>
      rw [hcut] at hid
      have hbar : '|' ∉ rest.dropWhile isDigit := fun hmem ↦
        Text.cutAt?_eq_none_iff.mp hcut ((List.dropWhile_sublist _).subset hmem)
      have hstop : ∀ c ∈ (rest.dropWhile isDigit).head?, isDigit c = false := by
        intro c hc
        have hnot := List.head?_dropWhile_not isDigit rest
        rwa [Option.mem_def.mp hc] at hnot
      have hmarker := IsMarker.plain hid hbar hstop
      rwa [List.takeWhile_append_dropWhile] at hmarker

end Markers

/-! ### Pages -/

section Pages

variable {lines : List Text} {line : Text} {page : Int}

theorem PageAfter.turn {id : Text} (lines : List Text) (h : IsMarker line id) :
    PageAfter (lines ++ [line]) (id.toNumber + 1) :=
  .marked rfl h (List.forall_mem_nil _)

theorem PageAfter.stay (h : PageAfter lines page) (hline : ∀ id, ¬IsMarker line id) :
    PageAfter (lines ++ [line]) page := by
  cases h with
  | unmarked h =>
    refine .unmarked fun next hnext ↦ ?_
    rcases List.mem_append.mp hnext with hnext | hnext
    · exact h next hnext
    · obtain rfl := List.mem_singleton.mp hnext
      exact hline
  | @marked before later marker id hlines hmarker hlater =>
    rw [hlines, List.append_assoc, List.cons_append]
    refine .marked rfl hmarker fun next hnext ↦ ?_
    rcases List.mem_append.mp hnext with hnext | hnext
    · exact hlater next hnext
    · obtain rfl := List.mem_singleton.mp hnext
      exact hline

/-- The last marker of some lines has no marker after it. -/
theorem toNumber_eq_of_append_eq {before before' later later' : List Text}
    {line line' id id' : Text} (h : before ++ line :: later = before' ++ line' :: later')
    (hmarker : IsMarker line id) (hmarker' : IsMarker line' id')
    (hlater : ∀ next ∈ later, ∀ id, ¬IsMarker next id)
    (hlater' : ∀ next ∈ later', ∀ id, ¬IsMarker next id) : id.toNumber = id'.toNumber := by
  have hsame (hline : line = line') : id.toNumber = id'.toNumber := by
    rw [← pageNumeral_of_isMarker hmarker, ← pageNumeral_of_isMarker hmarker', hline]
  rcases List.append_eq_append_iff.mp h with ⟨between, -, heq⟩ | ⟨between, -, heq⟩
  · cases between with
    | nil => exact hsame (List.cons.inj heq).1
    | cons next between =>
      have hmem : line' ∈ later := by rw [(List.cons.inj heq).2]; simp
      exact absurd hmarker' (hlater line' hmem id')
  · cases between with
    | nil => exact hsame (List.cons.inj heq).1.symm
    | cons next between =>
      have hmem : line ∈ later' := by rw [(List.cons.inj heq).2]; simp
      exact absurd hmarker (hlater' line hmem id)

/-- There is one page after some lines. -/
theorem PageAfter.unique {page' : Int} (h : PageAfter lines page) (h' : PageAfter lines page') :
    page = page' := by
  cases h with
  | unmarked hnone =>
    cases h' with
    | unmarked => rfl
    | marked hlines hmarker =>
      exact absurd hmarker (hnone _ (by simp [hlines]) _)
  | marked hlines hmarker hlater =>
    cases h' with
    | unmarked hnone => exact absurd hmarker (hnone _ (by simp [hlines]) _)
    | marked hlines' hmarker' hlater' =>
      rw [toNumber_eq_of_append_eq (hlines.symm.trans hlines') hmarker hmarker' hlater hlater']

end Pages

/-! ### The place of the reading -/

/-- The reading stands at the last of the lines, on the page after them. -/
structure StandsAfter (place : Place) (lines : List Text) : Prop where
  line : lines ≠ [] → place.line + 1 = lines.length
  page : ∃ page, place.page = some page ∧ PageAfter lines page

/-- A remark on the line with this number, on the one page that there is after it. -/
structure LocatedAt (lines : List Text) (number : Nat) (d : Diagnostic Finding) : Prop where
  severity : d.severity = .style
  inText : number < lines.length
  line : d.line = some (number : Int)
  page : ∃ page, d.page = some page ∧
    ∀ other, PageAfter (lines.take (number + 1)) other ↔ other = page

/-- The second of two remarks is not on an earlier line. -/
def InOrder (d later : Diagnostic Finding) : Prop :=
  ∀ number ∈ d.line, ∀ number' ∈ later.line, number ≤ number'

section Located

variable {place : Place} {lines more : List Text} {number number' : Nat} {d d' : Diagnostic Finding}

theorem StandsAfter.locatedAt (h : StandsAfter place lines) (hlines : lines ≠ [])
    (hd : d.IsRemarkAt place) (more : List Text) :
    LocatedAt (lines ++ more) (lines.length - 1) d := by
  have hpositive := List.length_pos_iff.mpr hlines
  have hnumber := h.line hlines
  obtain ⟨page, hpage, hafter⟩ := h.page
  refine ⟨hd.severity, ?_, ?_, page, hd.page.trans hpage, fun other ↦ ?_⟩
  · rw [List.length_append]
    omega
  · rw [hd.line, Option.some_inj]
    omega
  · rw [List.take_left' (by omega)]
    constructor
    · exact fun hother ↦ hother.unique hafter
    · rintro rfl
      exact hafter

theorem LocatedAt.inOrder (h : LocatedAt lines number d) (h' : LocatedAt more number' d')
    (hle : number ≤ number') : InOrder d d' := by
  intro n hn n' hn'
  rw [h.line] at hn
  rw [h'.line] at hn'
  obtain rfl := Option.some.inj hn
  obtain rfl := Option.some.inj hn'
  exact_mod_cast hle

end Located

namespace State

variable {book : RuleBook} {state : State} {before lines : List Text} {line : Text}

theorem isRemarkAt_text {d : Diagnostic Finding} (hd : d ∈ (state.text book line).diagnostics) :
    d.IsRemarkAt (state.text book line).state.place := by
  rw [text, List.mem_append, List.mem_append] at hd
  rcases hd with (hcontent | hquotes) | hlater
  · have hremark := isRemarkAt_of_mem_notes hcontent
    exact ⟨hremark.severity, hremark.line, hremark.page⟩
  · have hremark := isRemarkAt_of_mem_notes hquotes
    exact ⟨hremark.severity, hremark.line, hremark.page⟩
  · exact isRemarkAt_of_mem_notes hlater

/-- A line is read where the reading stands. Only a marker turns the page, and then nothing is
found. -/
theorem isRemarkAt_step {step : Step} (h : state.step book line = .ok step) :
    step.state.place.line = state.place.line ∧
      (∀ d ∈ step.diagnostics, d.IsRemarkAt step.state.place) ∧
      (∀ id, IsMarker line id → step.state.place.page = some (id.toNumber + 1)) ∧
      ((∀ id, ¬IsMarker line id) → step.state.place.page = state.place.page) := by
  have hmark {id : Text} (hid : IsMarker line id) : LineKind.ofLine line = .pageMarker :=
    LineKind.ofLine_of_startsWith (startsWith_of_isMarker hid)
  cases hkind : LineKind.ofLine line with
  | comment | blank =>
    simp only [State.step, hkind] at h
    obtain rfl := Except.ok.inj h
    refine ⟨rfl, fun _ ↦ isRemarkAt_of_mem_notes, fun id hid ↦ ?_, fun _ ↦ rfl⟩
    cases hkind.symm.trans (hmark hid)
  | text =>
    rw [step_of_text book state line hkind] at h
    obtain rfl := Except.ok.inj h
    refine ⟨rfl, fun _ ↦ isRemarkAt_text, fun id hid ↦ ?_, fun _ ↦ rfl⟩
    cases hkind.symm.trans (hmark hid)
  | directive =>
    have hplace := place_obey state line (.ofLine line)
    rw [step_of_directive book state line hkind] at h
    obtain rfl := Except.ok.inj h
    refine ⟨congrArg Place.line hplace, fun _ ↦ isRemarkAt_of_mem_notes, fun id hid ↦ ?_,
      fun _ ↦ congrArg Place.page hplace⟩
    cases hkind.symm.trans (hmark hid)
  | pageMarker =>
    have hstarts := LineKind.startsWith_of_pageMarker hkind
    simp only [State.step, hkind, turnPage] at h
    cases hnumeral : (pageNumeral line).isNumeral with
    | false =>
      rw [hnumeral] at h
      obtain rfl := Except.ok.inj h
      refine ⟨rfl, fun _ ↦ isRemarkAt_of_mem_notes, fun id hid ↦ ?_, fun _ ↦ rfl⟩
      obtain ⟨-, rfl, hid⟩ := isMarker_iff.mp hid
      rw [hnumeral] at hid
      cases hid
    | true =>
      simp only [hnumeral, Bool.not_true, Bool.false_eq_true, if_false] at h
      cases hnumber : (pageNumeral line).readNumber with
      | error fault =>
        rw [hnumber] at h
        cases h
      | ok number =>
        rw [hnumber] at h
        obtain rfl := Except.ok.inj h
        have hvalue : number = (pageNumeral line).toNumber := by
          unfold Text.readNumber at hnumber
          split_ifs at hnumber
          exact (Except.ok.inj hnumber).symm
        refine ⟨rfl, fun _ ↦ isRemarkAt_of_mem_notes, fun id hid ↦ ?_, fun hnone ↦ ?_⟩
        · rw [← pageNumeral_of_isMarker hid, ← hvalue]
          rfl
        · exact absurd (isMarker_iff.mpr ⟨hstarts, rfl, hnumeral⟩) (hnone _)

theorem standsAfter_step {step : Step} (hstands : StandsAfter state.place before)
    (h : (state.reading before.length line).step book line = .ok step) :
    StandsAfter step.state.place (before ++ [line]) := by
  obtain ⟨hline, -, hmarker, hother⟩ := isRemarkAt_step h
  constructor
  · intro _
    rw [hline, List.length_append]
    rfl
  · by_cases hmarks : ∃ id, IsMarker line id
    · obtain ⟨id, hid⟩ := hmarks
      exact ⟨_, hmarker id hid, .turn before hid⟩
    · obtain ⟨page, hpage, hafter⟩ := hstands.page
      have hnone := not_exists.mp hmarks
      exact ⟨page, (hother hnone).trans hpage, hafter.stay hnone⟩

variable (book) in
/-- What a run finds after some lines stands at the lines that it reads, in their order. -/
theorem located_readLines (hstands : StandsAfter state.place before) (lines : List Text) :
    let reading := state.readLines book before.length lines
    (∀ d ∈ reading.diagnostics,
        ∃ number, before.length ≤ number ∧ LocatedAt (before ++ lines) number d) ∧
      reading.diagnostics.Pairwise InOrder ∧
      ∀ last written, reading.result = .ok (last, written) →
        StandsAfter last.place (before ++ lines) := by
  induction lines generalizing state before with
  | nil =>
    refine ⟨by simp [readLines], .nil, ?_⟩
    rintro last written h
    obtain ⟨rfl, rfl⟩ := Prod.mk.inj (Except.ok.inj h)
    rwa [List.append_nil]
  | cons line lines ih =>
    cases hstep : (state.reading before.length line).step book line with
    | error fault =>
      have hstop : state.readLines book before.length (line :: lines) = ⟨[], .error fault⟩ := by
        rw [readLines, hstep]
      rw [hstop]
      exact ⟨by simp, .nil, by simp⟩
    | ok step =>
      have hafter := standsAfter_step hstands hstep
      obtain ⟨-, hremarks, -⟩ := isRemarkAt_step hstep
      obtain ⟨hlater, hordered, hlast⟩ := ih hafter
      have hlength : (before ++ [line]).length = before.length + 1 := by simp
      have happend : before ++ [line] ++ lines = before ++ line :: lines := by simp
      rw [hlength, happend] at hlater
      rw [hlength] at hordered
      rw [hlength, happend] at hlast
      have hhere : ∀ d ∈ step.diagnostics, LocatedAt (before ++ line :: lines) before.length d := by
        intro d hd
        have hlocated := hafter.locatedAt (by simp) (hremarks d hd) lines
        rwa [hlength, happend] at hlocated
      rw [readLines_cons hstep]
      refine ⟨?_, ?_, ?_⟩
      · intro d hd
        rcases List.mem_append.mp hd with hd | hd
        · exact ⟨before.length, le_rfl, hhere d hd⟩
        · obtain ⟨number, hnumber, hlocated⟩ := hlater d hd
          exact ⟨number, by omega, hlocated⟩
      · refine List.pairwise_append.mpr ⟨?_, hordered, ?_⟩
        · exact List.pairwise_of_forall_mem_list fun d hd d' hd' ↦
            (hhere d hd).inOrder (hhere d' hd') le_rfl
        · intro d hd d' hd'
          obtain ⟨number, hnumber, hlocated⟩ := hlater d' hd'
          exact (hhere d hd).inOrder hlocated (by omega)
      · intro last written hresult
        cases hrest : (step.state.readLines book (before.length + 1) lines).result with
        | error fault =>
          rw [hrest] at hresult
          cases hresult
        | ok reached =>
          rw [hrest] at hresult
          obtain ⟨rfl, -⟩ := Prod.mk.inj (Except.ok.inj hresult)
          exact hlast _ _ hrest

/-! ### Whole texts -/

/-- What is found at the end of a text, if the reading comes to it. -/
def endDiagnostics (reading : Reading (List Text)) : List (Diagnostic Finding) :=
  match reading.result with
  | .error _ => []
  | .ok (last, _) => last.place.notes (last.narrative.unterminated .file)

theorem diagnostics_readText (book : RuleBook) (state : State) {text : Text} (h : text ≠ []) :
    let opening := Opening.ofText text
    let reading := state.readLines book 0 opening.body.lines
    (state.readText book text).diagnostics =
      opening.remarks.map state.place.ofFile ++
        (reading.diagnostics ++ endDiagnostics reading) := by
  intro opening reading
  rw [readText, if_neg (by simpa using h), ← List.append_assoc]
  rfl

/-- The end of a text that has no lines finds nothing; any other stands at the last line. -/
theorem locatedAt_of_mem_endDiagnostics (file : Text) {d : Diagnostic Finding}
    (hd : d ∈ endDiagnostics ((start file).readLines book 0 lines))
    (hlast : ∀ last written, ((start file).readLines book 0 lines).result = .ok (last, written) →
      StandsAfter last.place lines) :
    LocatedAt lines (lines.length - 1) d := by
  have hlines : lines ≠ [] := by
    rintro rfl
    cases hd
  unfold endDiagnostics at hd
  split at hd
  · cases hd
  · next last written hresult =>
    have hremark := isRemarkAt_of_mem_notes hd
    have hlocated := (hlast last written hresult).locatedAt hlines hremark []
    rwa [List.append_nil] at hlocated

/-- Every diagnostic of a scenario stands where it belongs. A remark on the file comes first, if
there is one. All others are remarks on lines, in the order of the lines, and on the page that the
last marker up to their line has turned to. -/
theorem located_readText (book : RuleBook) (file text : Text) :
    let lines := (Opening.ofText text).body.lines
    ∃ remarks located,
      ((start file).readText book text).diagnostics = remarks ++ located ∧
        remarks.length ≤ 1 ∧ (∀ d ∈ remarks, d.severity = .file) ∧
        (∀ d ∈ located, ∃ number, LocatedAt lines number d) ∧ located.Pairwise InOrder := by
  intro lines
  by_cases hne : text = []
  · subst hne
    exact ⟨[], [], rfl, by simp, by simp, by simp, .nil⟩
  have hstart : StandsAfter (start file).place [] :=
    ⟨fun h ↦ absurd rfl h, 0, rfl, .unmarked (List.forall_mem_nil _)⟩
  obtain ⟨hlocated, hordered, hlast⟩ := located_readLines book hstart lines
  have hend : ∀ d ∈ endDiagnostics ((start file).readLines book 0 lines),
      LocatedAt lines (lines.length - 1) d :=
    fun _ hd ↦ locatedAt_of_mem_endDiagnostics file hd hlast
  refine ⟨_, _, diagnostics_readText book (start file) hne, ?_, ?_, ?_, ?_⟩
  · rw [List.length_map, Opening.ofText.eq_def]
    split
    · simp
    · split_ifs <;> simp
  · intro d hd
    obtain ⟨finding, _, rfl⟩ := List.mem_map.mp hd
    rfl
  · intro d hd
    rcases List.mem_append.mp hd with hd | hd
    · obtain ⟨number, -, hnumber⟩ := hlocated d hd
      exact ⟨number, hnumber⟩
    · exact ⟨_, hend d hd⟩
  · refine List.pairwise_append.mpr ⟨hordered, ?_, ?_⟩
    · exact List.pairwise_of_forall_mem_list fun d hd d' hd' ↦
        (hend d hd).inOrder (hend d' hd') le_rfl
    · intro d hd d' hd'
      obtain ⟨number, -, hnumber⟩ := hlocated d hd
      have hinText : number < lines.length := hnumber.inText
      exact hnumber.inOrder (hend d' hd') (by omega)

/-- A marker may be written with digits of any script; one that has something else before its bar
turns no page, and one without a bar may. -/
example :
    let text := Text.ofLines (["@endif", "*page٣", "@endif", "*page4a|t", "*page4a", "@endif"].map
      String.toList)
    ((start "day.ks".toList).readText .standard text).diagnostics.map (fun d ↦ (d.line, d.page)) =
      [(some 0, some 0), (some 2, some 4), (some 3, some 4), (some 5, some 5)] := by decide

end State

end CopyEditor.Scenario
