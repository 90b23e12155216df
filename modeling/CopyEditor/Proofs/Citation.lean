import CopyEditor.Proofs.Typography.InPlace
import CopyEditor.Proofs.Typography.Runs
import Mathlib.Algebra.Ring.Parity
import Mathlib.Data.List.Infix
import Mathlib.Data.List.Zip

/-!
Citations and their guillemets. A line with as many opening as closing guillemets is in good order
if, reading it from the state before it, no guillemet closes what is not open or opens what is open
already (`WellNested`). The check pairs the guillemets by their rank and compares the places within
each pair (`inGoodOrder`, `pairsAgree`); it comes to the same (`trackCitation_of_count_eq`).

Over many lines, the flag of the state counts guillemets modulo two, unless something is reported
that makes the count meaningless (`inCitation_trackAll`).
-/

set_option autoImplicit false
set_option relaxedAutoImplicit false

namespace CopyEditor.Narrative

/-! ### The order of guillemets -/

/-- Outside a citation no part of the line up to some place closes more citations than it opens, and
inside a citation none opens more than it closes. -/
def WellNested (inCitation : Bool) (line : Text) : Prop :=
  ∀ lead, lead <+: line →
    if inCitation then lead.count Glyph.openGuillemet ≤ lead.count Glyph.closeGuillemet
    else lead.count Glyph.closeGuillemet ≤ lead.count Glyph.openGuillemet

/-- Both kinds of guillemets are looked for at once, each from its own place on; a pair in the wrong
order ends the search, and so does a guillemet without a partner. -/
def pairsAgree (inCitation : Bool) (line : Text) (left right : Nat) : Bool :=
  match _hleft : Text.nextIndex? Glyph.openGuillemet line left,
      Text.nextIndex? Glyph.closeGuillemet line right with
  | some i, some j => inCitation == decide (j < i) && pairsAgree inCitation line (i + 1) (j + 1)
  | none, none => true
  | _, _ => false
termination_by line.length - left
decreasing_by
  have hbounds := Text.nextIndex?_bounds _hleft
  omega

section Positions

variable {c : Char} {column : Nat} {line : Text}

theorem length_positionsFrom : (positionsFrom c column line).length = line.count c := by
  induction line generalizing column with
  | nil => rfl
  | cons x rest ih =>
    rw [positionsFrom, List.count_cons]
    by_cases hx : x = c <;> simp [hx, ih]

theorem lt_of_mem_positionsFrom {i : Nat} (h : i ∈ positionsFrom c (column + 1) line) :
    column < i := by
  obtain ⟨j, rfl, -⟩ := mem_positionsFrom.mp h
  omega

theorem positionsFrom_eq_of_idxOf? : positionsFrom c column line =
    match line.idxOf? c with
    | none => []
    | some k => (column + k) :: positionsFrom c (column + k + 1) (line.drop (k + 1)) := by
  induction line generalizing column with
  | nil => rfl
  | cons x rest ih =>
    rw [positionsFrom, List.idxOf?_cons]
    by_cases hx : x = c
    · simp [hx]
    · rw [if_neg hx, ih, if_neg (by simpa using hx)]
      cases rest.idxOf? c with
      | none => rfl
      | some k =>
        have hcolumn : column + 1 + k = column + (k + 1) := by omega
        simp [hcolumn]

theorem positionsFrom_drop (c : Char) (line : Text) (start : Nat) :
    positionsFrom c start (line.drop start) =
      match Text.nextIndex? c line start with
      | none => []
      | some i => i :: positionsFrom c (i + 1) (line.drop (i + 1)) := by
  rw [positionsFrom_eq_of_idxOf?, Text.nextIndex?]
  cases (line.drop start).idxOf? c with
  | none => rfl
  | some k => simp [Nat.add_assoc]

end Positions

/-- The search at once for both kinds meets the pairs of equal rank. -/
theorem pairsAgree_eq (inCitation : Bool) (line : Text) (left right : Nat)
    (hlength : (positionsFrom Glyph.openGuillemet left (line.drop left)).length =
      (positionsFrom Glyph.closeGuillemet right (line.drop right)).length) :
    pairsAgree inCitation line left right =
      (List.zip (positionsFrom Glyph.openGuillemet left (line.drop left))
        (positionsFrom Glyph.closeGuillemet right (line.drop right))).all
          fun (i, j) ↦ inCitation == decide (j < i) := by
  fun_induction pairsAgree inCitation line left right with
  | case1 left right i j hleft hright ih =>
    rw [positionsFrom_drop, hleft, positionsFrom_drop, hright] at hlength ⊢
    rw [List.zip_cons_cons, List.all_cons, ih (Nat.succ_injective hlength)]
  | case2 left right hleft hright =>
    rw [positionsFrom_drop, hleft]
    rfl
  | case3 left right hboth hnone =>
    rw [positionsFrom_drop, positionsFrom_drop] at hlength
    cases hleft : Text.nextIndex? Glyph.openGuillemet line left with
    | none =>
      cases hright : Text.nextIndex? Glyph.closeGuillemet line right with
      | none => exact (hnone hleft hright).elim
      | some j => simp [hleft, hright] at hlength
    | some i =>
      cases hright : Text.nextIndex? Glyph.closeGuillemet line right with
      | none => simp [hleft, hright] at hlength
      | some j => exact (hboth i j hleft hright).elim

/-- What holds of nothing holds of every part up to some place if it holds of those that begin with
the first character. -/
theorem forall_isPrefix_cons_iff {property : Text → Prop} (hnil : property []) {c : Char}
    {rest : Text} : (∀ lead, lead <+: c :: rest → property lead) ↔
      ∀ lead, lead <+: rest → property (c :: lead) := by
  constructor
  · exact fun h lead hlead ↦ h _ (List.cons_prefix_cons.mpr ⟨rfl, hlead⟩)
  · intro h other hother
    rcases List.prefix_cons_iff.mp hother with rfl | ⟨lead, rfl, hlead⟩
    · exact hnil
    · exact h lead hlead

section Pairs

variable {opening closing : Char} {ok : Nat → Nat → Bool} (hne : opening ≠ closing)
  (hlt : ∀ i j, i < j → ok i j = true) (hgt : ∀ i j, j < i → ok i j = false)

include hne hlt hgt

/-- Guillemets of two kinds, paired by their rank: `pending` are the places of those that open and
wait for their partner. As many partners come as are waited for, and each comes after the one that
waits for it, exactly if no part of the line up to some place has too many of them. -/
theorem all_zip_positionsFrom_iff {pending : List Nat} {column : Nat} {line : Text}
    (hpending : ∀ i ∈ pending, i < column)
    (hcount : pending.length + line.count opening = line.count closing) :
    (List.zip (pending ++ positionsFrom opening column line)
        (positionsFrom closing column line)).all (fun pair ↦ ok pair.1 pair.2) = true ↔
      ∀ lead, lead <+: line → lead.count closing ≤ pending.length + lead.count opening := by
  induction line generalizing pending column with
  | nil => simp [positionsFrom]
  | cons c rest ih =>
    rw [forall_isPrefix_cons_iff (Nat.zero_le _)]
    have hbefore : ∀ i ∈ pending, i < column + 1 := fun i hi ↦ Nat.lt_succ_of_lt (hpending i hi)
    by_cases hopen : c = opening
    · subst hopen
      have hjoined : ∀ i ∈ pending ++ [column], i < column + 1 := by
        intro i hi
        rcases List.mem_append.mp hi with hi | hi
        · exact hbefore i hi
        · rw [List.mem_singleton.mp hi]
          exact Nat.lt_succ_self column
      simp only [List.count_cons_self, List.count_cons_of_ne hne] at hcount ⊢
      have hstep := ih hjoined (by
        rw [List.length_append, List.length_singleton]
        omega)
      rw [List.append_assoc, List.singleton_append] at hstep
      rw [positionsFrom, positionsFrom, if_pos rfl, if_neg hne, hstep]
      simp only [List.length_append, List.length_singleton, Nat.add_assoc, Nat.add_comm 1]
    · by_cases hclose : c = closing
      · subst hclose
        simp only [List.count_cons_self, List.count_cons_of_ne hopen] at hcount ⊢
        rw [positionsFrom, positionsFrom, if_neg hopen, if_pos rfl]
        cases pending with
        | nil =>
          -- no one waits, so the partner is yet to come
          have hpositive : 0 < (positionsFrom opening (column + 1) rest).length := by
            rw [length_positionsFrom]
            rw [List.length_nil] at hcount
            omega
          obtain ⟨i, more, hmore⟩ := List.exists_cons_of_length_pos hpositive
          have hlate : column < i := lt_of_mem_positionsFrom (hmore ▸ List.mem_cons_self ..)
          rw [hmore, List.nil_append, List.zip_cons_cons, List.all_cons, hgt i column hlate]
          refine iff_of_false Bool.false_ne_true fun h ↦ ?_
          have hfirst := h [] List.nil_prefix
          simp at hfirst
        | cons i pending =>
          rw [List.length_cons] at hcount
          have hstep := ih (fun j hj ↦ hbefore j (List.mem_cons_of_mem i hj)) (by omega)
          rw [List.cons_append, List.zip_cons_cons, List.all_cons,
            hlt i column (hpending i (List.mem_cons_self ..)), Bool.true_and, hstep]
          simp only [List.length_cons, Nat.add_right_comm, Nat.add_le_add_iff_right]
      · simp only [List.count_cons_of_ne hopen, List.count_cons_of_ne hclose] at hcount ⊢
        rw [positionsFrom, positionsFrom, if_neg hopen, if_neg hclose, ih hbefore hcount]

theorem all_zip_positions_iff {line : Text} (hcount : line.count opening = line.count closing) :
    (List.zip (positions opening line) (positions closing line)).all
        (fun pair ↦ ok pair.1 pair.2) = true ↔
      ∀ lead, lead <+: line → lead.count closing ≤ lead.count opening := by
  have hnone : ∀ i ∈ ([] : List Nat), i < 0 := by simp
  have h := all_zip_positionsFrom_iff hne hlt hgt hnone (by simpa using hcount)
  simpa only [positions, List.nil_append, List.length_nil, Nat.zero_add] using h

end Pairs

/-- Outside a citation an opening guillemet comes first in each pair, and inside a closing one. -/
theorem inGoodOrder_iff_wellNested (inCitation : Bool) {line : Text}
    (h : line.count Glyph.openGuillemet = line.count Glyph.closeGuillemet) :
    inGoodOrder inCitation line = true ↔ WellNested inCitation line := by
  have hne : Glyph.openGuillemet ≠ Glyph.closeGuillemet := by decide
  cases inCitation with
  | false =>
    have hlt : ∀ i j : Nat, i < j → (false == decide (j < i)) = true := by
      intro i j hij
      simp [Nat.le_of_lt hij]
    have hgt : ∀ i j : Nat, j < i → (false == decide (j < i)) = false := by
      intro i j hji
      simp [hji]
    exact all_zip_positions_iff hne hlt hgt h
  | true =>
    have hlt : ∀ i j : Nat, i < j → (true == decide (i < j)) = true := by
      intro i j hij
      simp [hij]
    have hgt : ∀ i j : Nat, j < i → (true == decide (i < j)) = false := by
      intro i j hji
      simp [Nat.le_of_lt hji]
    have hpairs := all_zip_positions_iff hne.symm hlt hgt h.symm
    rw [← List.zip_swap, List.all_map] at hpairs
    exact hpairs

theorem message_guillemetOrder (insideCitation : Bool) :
    (Finding.guillemetOrder insideCitation).message =
      if insideCitation then "guillemets « » out of order, line starts inside a citation".toList
      else "guillemets « » out of order, line starts outside a citation".toList := by
  cases insideCitation <;> decide

/-- A line with as many opening as closing guillemets leaves the state as it is, and is remarked on
once if it is not well nested; looking for both kinds at once tells the same. -/
theorem trackCitation_of_count_eq (state : Narrative) (line : Text)
    (h : line.count Glyph.openGuillemet = line.count Glyph.closeGuillemet) :
    (state.trackCitation line).state = state ∧
    (pairsAgree state.inCitation line 0 0 = true ↔ WellNested state.inCitation line) ∧
    (WellNested state.inCitation line → (state.trackCitation line).reports = []) ∧
    (¬WellNested state.inCitation line →
      (state.trackCitation line).reports.map Report.remark =
        [(if state.inCitation then
            "guillemets « » out of order, line starts inside a citation".toList
          else "guillemets « » out of order, line starts outside a citation".toList, none)]) := by
  have horder := inGoodOrder_iff_wellNested state.inCitation h
  have hpairs : pairsAgree state.inCitation line 0 0 = inGoodOrder state.inCitation line := by
    refine pairsAgree_eq state.inCitation line 0 0 ?_
    rw [length_positionsFrom, length_positionsFrom]
    exact h
  rw [hpairs, trackCitation, if_pos h]
  refine ⟨?_, horder, ?_, ?_⟩
  · split <;> rfl
  · intro hnested
    rw [if_pos (horder.mpr hnested)]
  · intro hnested
    rw [if_neg (mt horder.mp hnested), List.map_singleton, Report.remark, Report.onLine,
      message_guillemetOrder]

/-- Inside a citation, a line that opens another one before it closes the first is out of order. -/
theorem trackCitation_of_count_eq_inside :
    "« a »".toList.count Glyph.openGuillemet = "« a »".toList.count Glyph.closeGuillemet ∧
    ¬WellNested true "« a »".toList ∧
    (trackCitation ⟨false, true, true⟩ "« a »".toList).reports.map Report.remark =
      [("guillemets « » out of order, line starts inside a citation".toList, none)] := by
  have hcount : "« a »".toList.count Glyph.openGuillemet =
      "« a »".toList.count Glyph.closeGuillemet := by decide
  have hnested : ¬WellNested true "« a »".toList := fun h ↦
    absurd (h "«".toList ⟨" a »".toList, rfl⟩) (by decide)
  exact ⟨hcount, hnested, (trackCitation_of_count_eq ⟨false, true, true⟩ _ hcount).2.2.2 hnested⟩

/-! ### The flag of citations over many lines -/

/-- The state after some lines, and what they gave occasion to report. -/
def trackAll (state : Narrative) : List Text → Tracked
  | [] => ⟨state, []⟩
  | line :: lines =>
    let first := state.track line
    let later := first.state.trackAll lines
    ⟨later.state, first.reports ++ later.reports⟩

/-- The messages after which guillemets do not add up. -/
def disturbances : List Text :=
  ["unbalanced guillemets « »", "no citation (« ») to end", "citation (« ») already open",
    "dialogue inside a citation"].map String.toList

def Undisturbed (reports : List Report) : Prop :=
  ∀ report ∈ reports, report.finding.message ∉ disturbances

/-- How many guillemets stand in a text. -/
def guillemets (text : Text) : Nat :=
  text.count Glyph.openGuillemet + text.count Glyph.closeGuillemet

theorem guillemets_append (first second : Text) :
    guillemets (first ++ second) = guillemets first + guillemets second := by
  simp only [guillemets, List.count_append]
  omega

instance : DecidablePred Undisturbed := fun _ ↦ List.decidableBAll _ _

theorem undisturbed_append {first second : List Report} :
    Undisturbed (first ++ second) ↔ Undisturbed first ∧ Undisturbed second :=
  List.forall_mem_append

theorem not_undisturbed_singleton {finding : Finding} {column : Option Nat}
    (h : finding.message ∈ disturbances) : ¬Undisturbed [⟨finding, column⟩] :=
  fun hnone ↦ hnone ⟨finding, column⟩ (List.mem_singleton_self _) h

section Flag

variable {state : Narrative} {line : Text}

theorem inCitation_openDialogue {start : Nat} {stop : Option Nat}
    (h : Undisturbed (state.openDialogue start stop).reports) :
    (state.openDialogue start stop).state.inCitation = state.inCitation := by
  unfold openDialogue at h ⊢
  split_ifs at h ⊢ with _ hflag
  · rfl
  · exact absurd h (not_undisturbed_singleton (by decide))
  · exact (Bool.eq_false_iff.mpr hflag).symm

/-- Only a dialogue that opens inside a citation ends it, and that is reported. -/
theorem inCitation_trackDialogue (h : Undisturbed (state.trackDialogue line).reports) :
    (state.trackDialogue line).state.inCitation = state.inCitation := by
  simp only [trackDialogue] at h ⊢
  split at h
  · exact inCitation_openDialogue (undisturbed_append.mp h).2
  · unfold closeDialogue
    split <;> rfl
  · rfl

theorem inCitation_trackCitation (h : Undisturbed (state.trackCitation line).reports) :
    (state.trackCitation line).state.inCitation ≠ state.inCitation ↔ Odd (guillemets line) := by
  have hsame (heq : line.count Glyph.openGuillemet = line.count Glyph.closeGuillemet) :
      state.inCitation ≠ state.inCitation ↔ Odd (guillemets line) := by
    refine iff_of_false (fun hne ↦ hne rfl) ?_
    rw [guillemets, heq, Nat.not_odd_iff_even]
    exact Even.add_self _
  simp only [trackCitation] at h ⊢
  split_ifs at h ⊢ with heq _ hfar
  · exact hsame heq
  · exact hsame heq
  · exact absurd h (not_undisturbed_singleton (by decide))
  · exact absurd h (not_undisturbed_singleton (by decide))
  · exact absurd h (not_undisturbed_singleton (by decide))
  -- the counts differ by one
  · simp only [Bool.or_eq_true, decide_eq_true_eq] at hfar
    refine iff_of_true (by simp) ?_
    rw [guillemets, Nat.odd_iff]
    omega

theorem inCitation_track (h : Undisturbed (state.track line).reports) :
    (state.track line).state.inCitation ≠ state.inCitation ↔ Odd (guillemets line) := by
  obtain ⟨hdialogue, hcitation⟩ := undisturbed_append.mp h
  rw [← inCitation_trackCitation hcitation, inCitation_trackDialogue hdialogue]
  rfl

end Flag

/-- Unless the guillemets of some line are reported not to add up, a citation is open after some
lines where none was before them, or the other way round, exactly if the lines hold an odd number of
guillemets. -/
theorem inCitation_trackAll {state : Narrative} {lines : List Text}
    (h : Undisturbed (state.trackAll lines).reports) :
    (state.trackAll lines).state.inCitation ≠ state.inCitation ↔
      Odd (guillemets lines.flatten) := by
  induction lines generalizing state with
  | nil => simp [trackAll, guillemets]
  | cons line lines ih =>
    obtain ⟨hfirst, hlater⟩ := undisturbed_append.mp h
    have hline := inCitation_track hfirst
    have hlines := ih hlater
    rw [List.flatten_cons, guillemets_append, Nat.odd_add, ← Nat.not_odd_iff_even, ← hline,
      ← hlines, trackAll]
    generalize state.inCitation = before
    generalize (state.track line).state.inCitation = between
    generalize ((state.track line).state.trackAll lines).state.inCitation = after
    revert before between after
    decide

theorem inCitation_trackAll_seven :
    let lines := ["« a » « b", "c", "d » « e »", "« f"].map String.toList
    Undisturbed (trackAll {} lines).reports ∧ guillemets lines.flatten = 7 ∧
      (trackAll {} lines).state.inCitation = true := by
  intro lines
  have hquiet : Undisturbed (trackAll {} lines).reports := by decide
  have hcount : guillemets lines.flatten = 7 := by decide
  refine ⟨hquiet, hcount, Bool.not_eq_false _ |>.mp ?_⟩
  exact (inCitation_trackAll hquiet).mpr (hcount ▸ by decide)

end CopyEditor.Narrative
