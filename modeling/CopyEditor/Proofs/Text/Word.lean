import CopyEditor.Text.Word
import Mathlib.Data.List.TakeWhile

/-!
Accepted characters of a text. A row of them ends where another character comes
(`takeWhile_append_of_accepts`), and a word is a row of them that nothing can be added to (`IsRun`).
What is cut out of a text is every such word, from left to right, with the column that it begins at
(`maximalRuns_runs`). While a run is being read, the characters of it that are behind belong to the
text ahead (`mem_runsFrom`).
-/

set_option autoImplicit false
set_option relaxedAutoImplicit false

namespace CopyEditor.Text

/-! ### Accepted characters and what comes after them -/

section Stops

variable {accepts : Char → Bool} {row rest : Text}

theorem takeWhile_append_of_stop (hrest : ∀ c ∈ rest.head?, accepts c = false) (text : Text) :
    (text ++ rest).takeWhile accepts = text.takeWhile accepts := by
  induction text with
  | nil =>
    cases rest with
    | nil => rfl
    | cons c rest => simp [hrest c rfl]
  | cons c text ih =>
    simp only [List.cons_append, List.takeWhile_cons, ih]

theorem takeWhile_append_of_accepts (hrow : ∀ c ∈ row, accepts c = true)
    (hrest : ∀ c ∈ rest.head?, accepts c = false) : (row ++ rest).takeWhile accepts = row := by
  rw [takeWhile_append_of_stop hrest, List.takeWhile_eq_self_iff.mpr hrow]

/-- A text is a row of accepted characters and what comes after it. -/
theorem exists_eq_append_of_accepts (accepts : Char → Bool) (text : Text) :
    ∃ row rest, text = row ++ rest ∧ (∀ c ∈ row, accepts c = true) ∧
      ∀ c ∈ rest.head?, accepts c = false := by
  refine ⟨text.takeWhile accepts, text.dropWhile accepts, ?_, fun c ↦ List.mem_takeWhile_imp,
    fun c hc ↦ ?_⟩
  · rw [List.takeWhile_append_dropWhile]
  · have hhead := List.head?_dropWhile_not accepts text
    rwa [Option.mem_def.mp hc] at hhead

end Stops

/-! ### Maximal runs -/

/-- A word of accepted characters at a column of a text, with none right before or after it. -/
inductive IsRun (accepts : Char → Bool) : Text → Nat → Text → Prop
  | intro {lead word tail : Text} (hword : word ≠ []) (haccepts : ∀ c ∈ word, accepts c = true)
      (hbefore : ∀ c ∈ lead.getLast?, accepts c = false)
      (hafter : ∀ c ∈ tail.head?, accepts c = false) :
      IsRun accepts (lead ++ word ++ tail) lead.length word

/-- All the maximal runs of a text, from left to right. -/
structure MaximalRuns (accepts : Char → Bool) (text : Text) (runs : List (Nat × Text)) :
    Prop where
  ascending : runs.Pairwise fun run next ↦ run.1 < next.1
  mem_iff : ∀ column word, (column, word) ∈ runs ↔ IsRun accepts text column word

variable {accepts : Char → Bool} {text word : Text} {column : Nat}

/-- A run goes on as long as characters are accepted, and begins where the one before is not. -/
theorem isRun_iff : IsRun accepts text column word ↔
    word ≠ [] ∧ word = (text.drop column).takeWhile accepts ∧
      ∀ c ∈ (text.take column).getLast?, accepts c = false := by
  constructor
  · rintro ⟨hword, haccepts, hbefore, hafter⟩
    refine ⟨hword, ?_, ?_⟩
    · rw [List.append_assoc, List.drop_left, takeWhile_append_of_accepts haccepts hafter]
    · rwa [List.append_assoc, List.take_left]
  · rintro ⟨hword, hreach, hbefore⟩
    obtain ⟨row, tail, hsplit, hrow, htail⟩ :=
      exists_eq_append_of_accepts accepts (text.drop column)
    rw [hsplit, takeWhile_append_of_accepts hrow htail] at hreach
    subst hreach
    have hlength : (text.take column).length = column := by
      refine List.length_take_of_le ?_
      by_contra hlt
      rw [List.drop_eq_nil_of_le (by omega), eq_comm, List.append_eq_nil_iff] at hsplit
      exact hword hsplit.1
    have hrun := IsRun.intro hword hrow hbefore htail
    rwa [hlength, List.append_assoc, ← hsplit, List.take_append_drop] at hrun

theorem IsRun.column_lt (h : IsRun accepts text column word) : column < text.length := by
  obtain ⟨hword, -, -, -⟩ := h
  have hpos := List.length_pos_iff.mpr hword
  simp only [List.length_append]
  omega

/-- Of accepted characters up to one that is not accepted, a run begins at the first alone. -/
theorem isRun_append_iff_of_le {begun tail : Text} (hbegun : ∀ c ∈ begun, accepts c = true)
    (hafter : ∀ c ∈ tail.head?, accepts c = false) (hle : column ≤ begun.length) :
    IsRun accepts (begun ++ tail) column word ↔ begun ≠ [] ∧ column = 0 ∧ word = begun := by
  rw [isRun_iff]
  constructor
  · rintro ⟨hword, hreach, hbefore⟩
    have hzero : column = 0 := by
      by_contra hpos
      have hne : begun.take column ≠ [] := by
        rw [Ne, List.take_eq_nil_iff, not_or]
        exact ⟨hpos, List.ne_nil_of_length_pos (by omega)⟩
      have hlast := List.getLast_mem hne
      rw [List.take_append_of_le_length hle] at hbefore
      have hrefused := hbefore _ (List.getLast?_eq_some_getLast hne)
      rw [hbegun _ (List.mem_of_mem_take hlast)] at hrefused
      cases hrefused
    subst hzero
    rw [List.drop_zero, takeWhile_append_of_accepts hbegun hafter] at hreach
    exact ⟨hreach ▸ hword, rfl, hreach⟩
  · rintro ⟨hne, rfl, rfl⟩
    exact ⟨hne, (takeWhile_append_of_accepts hbegun hafter).symm, by simp⟩

/-- From the second character of a text on, what stands before the text is of no account. -/
theorem isRun_append_iff_of_pos (lead : Text) {later : Nat} (hlater : 0 < later) :
    IsRun accepts (lead ++ text) (lead.length + later) word ↔ IsRun accepts text later word := by
  obtain ⟨later, rfl⟩ := Nat.exists_eq_add_one_of_ne_zero (Nat.ne_of_gt hlater)
  rw [isRun_iff, isRun_iff, List.drop_length_add_append, List.take_length_add_append,
    List.getLast?_append]
  cases text with
  | nil =>
    refine iff_of_false ?_ ?_ <;>
    · rintro ⟨hword, hreach, -⟩
      exact hword (by simpa using hreach)
  | cons c text => rw [List.take_succ_cons, List.getLast?_cons, Option.some_or]

/-- After a character that is not accepted the runs are those of the text ahead. -/
theorem isRun_cons_succ_iff {c : Char} (hc : accepts c = false) :
    IsRun accepts (c :: text) (column + 1) word ↔ IsRun accepts text column word := by
  rw [isRun_iff, isRun_iff, List.drop_succ_cons, List.take_succ_cons, List.getLast?_cons]
  cases (text.take column).getLast? with
  | none => simp [hc]
  | some d => simp

theorem isRun_iff_of_forall (htext : ∀ c ∈ text, accepts c = true) :
    IsRun accepts text column word ↔ text ≠ [] ∧ column = 0 ∧ word = text := by
  by_cases hle : column ≤ text.length
  · have h : IsRun accepts (text ++ []) column word ↔ _ :=
      isRun_append_iff_of_le htext (by simp) hle
    rwa [List.append_nil] at h
  · refine iff_of_false (fun h ↦ hle (Nat.le_of_lt h.column_lt)) ?_
    rintro ⟨-, rfl, -⟩
    exact hle (Nat.zero_le _)

theorem isRun_append_cons_iff {begun rest : Text} {c : Char}
    (hbegun : ∀ d ∈ begun, accepts d = true) (hc : accepts c = false) :
    IsRun accepts (begun ++ c :: rest) column word ↔
      (begun ≠ [] ∧ column = 0 ∧ word = begun) ∨
        ∃ later, column = begun.length + (later + 1) ∧ IsRun accepts rest later word := by
  have hafter : ∀ d ∈ (c :: rest).head?, accepts d = false := by
    rintro d ⟨⟩
    exact hc
  have hlater (later : Nat) :
      IsRun accepts (begun ++ c :: rest) (begun.length + (later + 1)) word ↔
        IsRun accepts rest later word := by
    rw [isRun_append_iff_of_pos begun (Nat.succ_pos later), isRun_cons_succ_iff hc]
  rcases Nat.lt_or_ge begun.length column with hlt | hle
  · obtain ⟨later, rfl⟩ := Nat.exists_eq_add_of_lt hlt
    rw [Nat.add_assoc, hlater]
    constructor
    · exact fun h ↦ .inr ⟨later, rfl, h⟩
    · rintro (⟨-, hzero, -⟩ | ⟨other, hother, h⟩)
      · omega
      · obtain rfl : later = other := by omega
        exact h
  · rw [isRun_append_iff_of_le hbegun hafter hle]
    constructor
    · exact .inl
    · rintro (h | ⟨later, rfl, -⟩)
      · exact h
      · omega

/-- What is cut off when a run ends, if there is one. -/
theorem mem_ended_iff {start : Nat} {begun : Text} :
    (column, word) ∈ (if begun.isEmpty then []
        else [(start + begun.length - begun.length, begun.reverse)]) ↔
      begun.reverse ≠ [] ∧ column = start ∧ word = begun.reverse := by
  cases begun <;> simp

/-- From a state in which `begun` is being read, the runs are those of the text from its first
character on. -/
theorem mem_runsFrom {start : Nat} {begun rest : Text}
    (hbegun : ∀ d ∈ begun.reverse, accepts d = true) :
    (column, word) ∈ runsFrom accepts (start + begun.length) begun rest ↔
      ∃ later, column = start + later ∧ IsRun accepts (begun.reverse ++ rest) later word := by
  induction rest generalizing start begun with
  | nil =>
    rw [runsFrom, mem_ended_iff, List.append_nil]
    simp only [isRun_iff_of_forall hbegun]
    constructor
    · rintro ⟨hne, rfl, hword⟩
      exact ⟨0, rfl, hne, rfl, hword⟩
    · rintro ⟨later, rfl, hne, rfl, hword⟩
      exact ⟨hne, rfl, hword⟩
  | cons c rest ih =>
    rw [runsFrom]
    split
    -- the run grows, and the text from its first character on stays as it is
    · next hc =>
      have hgrown : ∀ d ∈ (c :: begun).reverse, accepts d = true := by
        simpa [or_imp, forall_and, hc] using hbegun
      have h := @ih start (c :: begun) hgrown
      rwa [List.length_cons, List.reverse_cons, List.append_assoc] at h
    -- the run ends, and the next one begins in the text ahead at the earliest
    · next hc =>
      have hrest := @ih (start + begun.length + 1) [] (by simp)
      rw [List.mem_append, mem_ended_iff]
      rw [List.length_nil, Nat.add_zero, List.reverse_nil, List.nil_append] at hrest
      rw [hrest]
      simp only [isRun_append_cons_iff hbegun (Bool.eq_false_iff.mpr hc)]
      constructor
      · rintro (⟨hne, rfl, hword⟩ | ⟨later, rfl, h⟩)
        · exact ⟨0, rfl, .inl ⟨hne, rfl, hword⟩⟩
        · exact ⟨begun.length + (later + 1), by omega, .inr ⟨later, by simp, h⟩⟩
      · rintro ⟨-, rfl, ⟨hne, rfl, hword⟩ | ⟨later, rfl, h⟩⟩
        · exact .inl ⟨hne, rfl, hword⟩
        · exact .inr ⟨later, by simp only [List.length_reverse]; omega, h⟩

theorem mem_runsFrom_nil {start : Nat} :
    (column, word) ∈ runsFrom accepts start [] text ↔
      ∃ later, column = start + later ∧ IsRun accepts text later word :=
  @mem_runsFrom accepts word column start [] text (List.forall_mem_nil _)

theorem pairwise_runsFrom (accepts : Char → Bool) (start : Nat) (begun rest : Text) :
    (runsFrom accepts (start + begun.length) begun rest).Pairwise
      fun run next ↦ run.1 < next.1 := by
  induction rest generalizing start begun with
  | nil =>
    rw [runsFrom]
    split <;> simp
  | cons c rest ih =>
    rw [runsFrom]
    split
    · next hc =>
      exact ih start (c :: begun)
    · next hc =>
      refine List.pairwise_append.mpr ⟨by split <;> simp, ih (start + begun.length + 1) [], ?_⟩
      rintro ⟨column, word⟩ hended ⟨later, next⟩ hnext
      obtain ⟨-, rfl, -⟩ := mem_ended_iff.mp hended
      obtain ⟨further, rfl, -⟩ := mem_runsFrom_nil.mp hnext
      omega

/-- Every maximal run of a text is found, from left to right. -/
theorem maximalRuns_runs (accepts : Char → Bool) (text : Text) :
    MaximalRuns accepts text (text.runs accepts) where
  ascending := pairwise_runsFrom accepts 0 [] text
  mem_iff column word := by
    rw [runs, mem_runsFrom_nil]
    simp only [Nat.zero_add, exists_eq_left']

end CopyEditor.Text
