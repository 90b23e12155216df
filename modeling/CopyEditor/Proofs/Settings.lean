import CopyEditor.Config
import CopyEditor.Proofs.Text.Cut
import CopyEditor.Proofs.Text.Trim

/-!
What a settings file settles. A line may assign a value to a key (`Assigns`), and it is bad if it
says something else, or assigns to a flag what is none (`Bad`). Reading one line that is not bad
overrides the setting of its key, or notes the key if it is not known (`readLines_cons`). So a whole
file overrides each setting by the last value of its key (`readLines_of_forall_not_bad`), and only
the order of the values of one key counts (`Reordered.lastValue?_eq`). The first bad line ends the
reading, whatever comes after it (`readLines_of_faulty`). Together that is all there is to say of a
file (`ofText_settings`).
-/

set_option autoImplicit false
set_option relaxedAutoImplicit false

namespace CopyEditor.Config

/-! ### What a line says -/

/-- The line is neither blank nor a comment. -/
def Significant (line : Text) : Prop :=
  line.trim ≠ [] ∧ line.trim.head? ≠ some '#' ∧ line.trim.head? ≠ some ';'

/-- The line gives a value to a key; they stand before and after its first equals sign. -/
def Assigns (line key value : Text) : Prop :=
  Significant line ∧ ∃ left right : Text, line.trim = left ++ '=' :: right ∧ '=' ∉ left ∧
    key = left.trim ∧ value = right.trim

def flagKeys : List Text := ["color".toList, "check_names".toList]

def flagValues : List Text := ["0".toList, "1".toList]

def knownKeys : List Text :=
  ["scenario_extensions".toList, "translation_extensions".toList, "encoding".toList] ++ flagKeys

/-- The line is the last one for the key, and it gives the value. -/
def LastAssigns (lines : List Text) (key value : Text) : Prop :=
  ∃ before line after, lines = before ++ line :: after ∧ Assigns line key value ∧
    ∀ later ∈ after, ∀ other, ¬Assigns later key other

/-- The line assigns nothing although it says something, or it assigns to a flag what is none. -/
def Bad (line : Text) : Prop :=
  (Significant line ∧ '=' ∉ line.trim) ∨
    ∃ key value, Assigns line key value ∧ key ∈ flagKeys ∧ value ∉ flagValues

/-- The error for a bad line, which is the line of the given number. -/
inductive Faulty (number : Nat) (line : Text) : ConfigError → Prop
  | noAssignment (hline : Significant line) (hnone : '=' ∉ line.trim) :
      Faulty number line (.expectedAssignment number line.trim)
  | noFlag {key value : Text} (hassigns : Assigns line key value) (hkey : key ∈ flagKeys)
      (hvalue : value ∉ flagValues) : Faulty number line (.invalidFlag key value)

/-- The key and the value that a line assigns. -/
def assignment? (line : Text) : Option (Text × Text) :=
  if isSilent line.trim then none
  else (line.trim.cutAt? '=').map fun parts ↦ (parts.1.trim, parts.2.trim)

/-- The value that a line assigns to the key. -/
def valueOf? (key line : Text) : Option Text :=
  (assignment? line).bind fun assigned ↦ if assigned.1 = key then some assigned.2 else none

/-- A key that a line assigns to and that is not known. -/
def unknownKey? (line : Text) : Option Text :=
  (assignment? line).bind fun assigned ↦
    if knownKeys.contains assigned.1 then none else some assigned.1

/-- Whether the line is bad, as it is computed. -/
def isBad (line : Text) : Bool :=
  !isSilent line.trim && (assignment? line).all fun assigned ↦
    flagKeys.contains assigned.1 && !flagValues.contains assigned.2

section Line

variable {line key value : Text}

theorem isSilent_eq_false_iff : isSilent line.trim = false ↔ Significant line := by
  rw [isSilent, Significant]
  cases line.trim <;> simp

theorem assignment?_eq_some_iff :
    assignment? line = some (key, value) ↔ Assigns line key value := by
  rw [assignment?, Assigns, ← isSilent_eq_false_iff]
  cases isSilent line.trim with
  | true => simp
  | false =>
    simp only [Bool.false_eq_true, if_false, Option.map_eq_some_iff, Prod.mk.injEq, true_and]
    constructor
    · rintro ⟨⟨left, right⟩, hcut, rfl, rfl⟩
      obtain ⟨hleft, hline⟩ := Text.of_cutAt? hcut
      exact ⟨left, right, hline, hleft, rfl, rfl⟩
    · rintro ⟨left, right, hline, hleft, rfl, rfl⟩
      exact ⟨(left, right), by rw [hline, Text.cutAt?_append_cons hleft], rfl, rfl⟩

theorem valueOf?_eq_some_iff : valueOf? key line = some value ↔ Assigns line key value := by
  rw [← assignment?_eq_some_iff, valueOf?]
  rcases assignment? line with _ | ⟨found, given⟩
  · simp
  · by_cases hfound : found = key <;> simp [hfound]

theorem valueOf?_eq_none_iff : valueOf? key line = none ↔ ∀ value, ¬Assigns line key value := by
  simp only [Option.eq_none_iff_forall_ne_some, ne_eq, valueOf?_eq_some_iff]

theorem unknownKey?_eq_some_iff :
    unknownKey? line = some key ↔ (∃ value, Assigns line key value) ∧ key ∉ knownKeys := by
  simp only [← assignment?_eq_some_iff, unknownKey?]
  rcases assignment? line with _ | ⟨found, given⟩
  · simp
  · by_cases hfound : found ∈ knownKeys <;> simpa [hfound] using fun h ↦ h ▸ hfound

theorem unknownKey?_eq_none (h : Assigns line key value) (hkey : key ∈ knownKeys) :
    unknownKey? line = none := by
  rw [unknownKey?, assignment?_eq_some_iff.mpr h]
  exact if_pos (List.contains_iff_mem.mpr hkey)

theorem assignment?_eq_none_iff (h : Significant line) :
    assignment? line = none ↔ '=' ∉ line.trim := by
  rw [assignment?, isSilent_eq_false_iff.mpr h, if_neg Bool.false_ne_true, Option.map_eq_none_iff,
    Text.cutAt?_eq_none_iff]

theorem isBad_iff : isBad line = true ↔ Bad line := by
  rw [isBad, Bool.and_eq_true, Bool.not_eq_true', isSilent_eq_false_iff, Bad]
  simp only [← assignment?_eq_some_iff]
  cases h : assignment? line with
  | none =>
    have hmark (hline : Significant line) : '=' ∉ line.trim := (assignment?_eq_none_iff hline).mp h
    simpa using hmark
  | some assigned =>
    have hline : Significant line := (assignment?_eq_some_iff.mp h).1
    have hmark : '=' ∈ line.trim := by
      by_contra hmark
      rw [(assignment?_eq_none_iff hline).mpr hmark] at h
      cases h
    simp [hline, hmark, Prod.ext_iff]

instance (line : Text) : Decidable (Bad line) := decidable_of_iff (isBad line = true) isBad_iff

end Line

/-! ### Settings by key -/

/-- The configuration in which each setting is what the value of its key reads as; a setting whose
key has no value stays as it is. -/
def override (config : Config) (value? : Text → Option Text) : Config where
  scenarioExtensions := ((value? "scenario_extensions".toList).map parseExtensions).getD
    config.scenarioExtensions
  catalogExtensions := ((value? "translation_extensions".toList).map parseExtensions).getD
    config.catalogExtensions
  color := ((value? "color".toList).map (· == "1".toList)).getD config.color
  checkNames := ((value? "check_names".toList).map (· == "1".toList)).getD config.checkNames
  encoding := (value? "encoding".toList).getD config.encoding

section Override

variable {config : Config} {key value : Text}

theorem override_none (config : Config) : config.override (fun _ ↦ none) = config := rfl

theorem override_override (config : Config) (first second : Text → Option Text) :
    (config.override first).override second =
      config.override fun key ↦ (second key).or (first key) := by
  have hfield {α : Type} (key : Text) (parse : Text → α) (default : α) :
      ((second key).map parse).getD (((first key).map parse).getD default) =
        (((second key).or (first key)).map parse).getD default := by
    cases second key <;> rfl
  -- The encoding is not parsed, so its field is that of `id`.
  have hencoding := hfield "encoding".toList id config.encoding
  simp only [Option.map_id_fun, id_eq] at hencoding
  simp only [override, hfield, hencoding]

/-- Only the values of known keys count. -/
theorem override_congr {first second : Text → Option Text}
    (h : ∀ key ∈ knownKeys, first key = second key) :
    config.override first = config.override second := by
  simp only [knownKeys, flagKeys, List.cons_append, List.nil_append, List.forall_mem_cons] at h
  obtain ⟨hscenario, hcatalog, hencoding, hcolor, hnames, -⟩ := h
  simp only [override, hscenario, hcatalog, hencoding, hcolor, hnames]

/-- What is given to the key, and nothing to others. -/
def only (key value found : Text) : Option Text := if key = found then some value else none

theorem assign_of_known (config : Config) (hkey : key ∈ knownKeys)
    (hvalue : key ∈ flagKeys → value ∈ flagValues) :
    config.assign key value = .ok (some (config.override (only key value))) := by
  rcases List.mem_append.mp hkey with hother | hflag
  · simp only [List.mem_cons, List.not_mem_nil, or_false] at hother
    rcases hother with rfl | rfl | rfl <;> rfl
  · have hgiven := hvalue hflag
    simp only [flagKeys, flagValues, List.mem_cons, List.not_mem_nil, or_false] at hflag hgiven
    rcases hflag with rfl | rfl <;> rcases hgiven with rfl | rfl <;> rfl

theorem assign_of_unknown (config : Config) (hkey : key ∉ knownKeys) :
    config.assign key value = .ok none := by
  simp only [knownKeys, flagKeys, List.cons_append, List.nil_append, List.mem_cons,
    List.not_mem_nil, or_false, not_or] at hkey
  obtain ⟨hscenario, hcatalog, hencoding, hcolor, hnames⟩ := hkey
  simp only [assign, hscenario, hcatalog, hencoding, hcolor, hnames, if_false]

theorem override_only_of_unknown (hkey : key ∉ knownKeys) :
    config.override (only key value) = config :=
  override_congr fun _ hfound ↦ if_neg (ne_of_mem_of_not_mem hfound hkey).symm

theorem assign_of_noFlag (config : Config) (hkey : key ∈ flagKeys) (hvalue : value ∉ flagValues) :
    config.assign key value = .error (.invalidFlag key value) := by
  simp only [flagValues, List.mem_cons, List.not_mem_nil, or_false, not_or] at hvalue
  have hneither : ¬value = ['0'] ∧ ¬value = ['1'] := hvalue
  have hflag : parseFlag key value = .error (.invalidFlag key value) := by
    rw [parseFlag, if_neg hneither.1, if_neg hneither.2]
  simp only [flagKeys, List.mem_cons, List.not_mem_nil, or_false] at hkey
  rcases hkey with rfl | rfl
  · exact congrArg (Except.map _) hflag
  · exact congrArg (Except.map _) hflag

end Override

/-! ### The last value of a key -/

/-- The value that the last line for the key assigns to it. -/
def lastValue? (lines : List Text) (key : Text) : Option Text :=
  lines.reverse.findSome? (valueOf? key)

section LastValue

variable {lines : List Text} {key value : Text}

theorem lastValue?_append (lines others : List Text) (key : Text) :
    lastValue? (lines ++ others) key = (lastValue? others key).or (lastValue? lines key) := by
  rw [lastValue?, List.reverse_append, List.findSome?_append]
  rfl

theorem lastValue?_singleton (line : Text) (key : Text) :
    lastValue? [line] key = valueOf? key line := by
  rw [lastValue?, List.reverse_singleton, List.findSome?_singleton]

theorem lastValue?_eq_some_iff :
    lastValue? lines key = some value ↔ LastAssigns lines key value := by
  simp only [lastValue?, List.findSome?_eq_some_iff, LastAssigns, valueOf?_eq_some_iff,
    valueOf?_eq_none_iff]
  constructor
  · rintro ⟨after, line, before, hlines, hline, hafter⟩
    refine ⟨before.reverse, line, after.reverse, ?_, hline, ?_⟩
    · rw [← List.reverse_reverse lines, hlines]
      simp
    · simpa using hafter
  · rintro ⟨before, line, after, rfl, hline, hafter⟩
    exact ⟨after.reverse, line, before.reverse, by simp, hline, by simpa using hafter⟩

theorem lastValue?_eq_none_iff :
    lastValue? lines key = none ↔ ∀ line ∈ lines, ∀ value, ¬Assigns line key value := by
  simp only [lastValue?, List.findSome?_eq_none_iff, List.mem_reverse, valueOf?_eq_none_iff]

end LastValue

/-! ### Reading lines -/

/-- The keys that are not known, as often as they come and in their order. -/
def unknownKeys (lines : List Text) : List Text := lines.filterMap unknownKey?

section Reading

variable {line : Text} {lines : List Text}

theorem valueOf?_of_assignment {key value : Text} (h : assignment? line = some (key, value)) :
    (valueOf? · line) = only key value := by
  funext found
  rw [valueOf?, h]
  rfl

/-- A line that is not bad overrides the setting of its key, or its key is noted. -/
theorem readLines_cons (h : ¬Bad line) (loaded : Loaded) (number : Nat) (rest : List Text) :
    readLines loaded number (line :: rest) =
      readLines ⟨loaded.config.override (valueOf? · line),
        loaded.unknownKeys ++ (unknownKey? line).toList⟩ (number + 1) rest := by
  rw [Bad, not_or] at h
  rw [readLines]
  cases hsilent : isSilent line.trim with
  | true =>
    have hnone : assignment? line = none := by rw [assignment?, hsilent, if_pos rfl]
    simp [valueOf?, unknownKey?, hnone, override_none]
  | false =>
    have hline := isSilent_eq_false_iff.mp hsilent
    cases hcut : line.trim.cutAt? '=' with
    | none => exact absurd ⟨hline, Text.cutAt?_eq_none_iff.mp hcut⟩ h.1
    | some parts =>
      obtain ⟨left, right⟩ := parts
      have hassignment : assignment? line = some (left.trim, right.trim) := by
        rw [assignment?, hsilent, if_neg Bool.false_ne_true, hcut]
        rfl
      have hassigns := assignment?_eq_some_iff.mp hassignment
      simp only [valueOf?_of_assignment hassignment]
      by_cases hkey : left.trim ∈ knownKeys
      · have hflag : left.trim ∈ flagKeys → right.trim ∈ flagValues := by
          intro hflag
          by_contra hvalue
          exact h.2 ⟨_, _, hassigns, hflag, hvalue⟩
        simp [assign_of_known loaded.config hkey hflag, unknownKey?_eq_none hassigns hkey]
      · have hsome : unknownKey? line = some left.trim :=
          unknownKey?_eq_some_iff.mpr ⟨⟨_, hassigns⟩, hkey⟩
        simp [assign_of_unknown loaded.config hkey, override_only_of_unknown hkey, hsome]

/-- Without a bad line, the last value of each key overrides its setting. -/
theorem readLines_of_forall_not_bad (h : ∀ line ∈ lines, ¬Bad line) (loaded : Loaded)
    (number : Nat) :
    readLines loaded number lines =
      .ok ⟨loaded.config.override (lastValue? lines), loaded.unknownKeys ++ unknownKeys lines⟩ := by
  induction lines generalizing loaded number with
  | nil =>
    have hconfig : loaded.config.override (lastValue? []) = loaded.config := override_none _
    rw [readLines, hconfig, unknownKeys, List.filterMap_nil, List.append_nil]
  | cons line lines ih =>
    rw [List.forall_mem_cons] at h
    have hlast (key : Text) :
        lastValue? (line :: lines) key = (lastValue? lines key).or (valueOf? key line) := by
      rw [← lastValue?_singleton, ← lastValue?_append, List.singleton_append]
    have hunknown :
        unknownKeys (line :: lines) = (unknownKey? line).toList ++ unknownKeys lines := by
      rw [unknownKeys, List.filterMap_cons]
      cases unknownKey? line <;> rfl
    rw [readLines_cons h.1, ih h.2, override_override, hunknown, List.append_assoc, ← funext hlast]

/-! ### The first fault -/

theorem exists_faulty_iff {number : Nat} : (∃ fault, Faulty number line fault) ↔ Bad line := by
  constructor
  · rintro ⟨fault, ⟨hline, hnone⟩ | ⟨hassigns, hkey, hvalue⟩⟩
    · exact .inl ⟨hline, hnone⟩
    · exact .inr ⟨_, _, hassigns, hkey, hvalue⟩
  · rintro (⟨hline, hnone⟩ | ⟨key, value, hassigns, hkey, hvalue⟩)
    · exact ⟨_, .noAssignment hline hnone⟩
    · exact ⟨_, .noFlag hassigns hkey hvalue⟩

theorem readLines_cons_of_faulty {number : Nat} {fault : ConfigError}
    (h : Faulty number line fault) (loaded : Loaded) (rest : List Text) :
    readLines loaded number (line :: rest) = .error fault := by
  cases h with
  | noAssignment hline hnone =>
    simp [readLines, isSilent_eq_false_iff.mpr hline, Text.cutAt?_eq_none_iff.mpr hnone]
  | noFlag hassigns hkey hvalue =>
    obtain ⟨hline, left, right, htrim, hleft, rfl, rfl⟩ := hassigns
    rw [readLines, isSilent_eq_false_iff.mpr hline, htrim, Text.cutAt?_append_cons hleft]
    simp [assign_of_noFlag loaded.config hkey hvalue]

/-- The first bad line is faulty in the way that the error says. -/
def FirstFault (lines : List Text) (fault : ConfigError) : Prop :=
  ∃ before line after, lines = before ++ line :: after ∧ (∀ earlier ∈ before, ¬Bad earlier) ∧
    Faulty (before.length + 1) line fault

/-- What comes after the first bad line does not count. -/
theorem readLines_of_faulty {before : List Text} {fault : ConfigError} (loaded : Loaded)
    (number : Nat) (hbefore : ∀ earlier ∈ before, ¬Bad earlier)
    (h : Faulty (number + before.length) line fault) (after : List Text) :
    readLines loaded number (before ++ line :: after) = .error fault := by
  induction before generalizing loaded number with
  | nil => exact readLines_cons_of_faulty h loaded after
  | cons earlier before ih =>
    rw [List.forall_mem_cons] at hbefore
    rw [List.length_cons, Nat.add_comm before.length, ← Nat.add_assoc] at h
    rw [List.cons_append, readLines_cons hbefore.1, ih _ _ hbefore.2 h]

theorem exists_firstFault (h : ∃ line ∈ lines, Bad line) : ∃ fault, FirstFault lines fault := by
  obtain ⟨before, line, after, hlines, hbad, hbefore⟩ :
      ∃ before line after, lines = before ++ line :: after ∧ Bad line ∧
        ∀ earlier ∈ before, ¬Bad earlier := by
    have hsome : (lines.find? fun line ↦ decide (Bad line)).isSome = true := by
      simpa only [List.find?_isSome, decide_eq_true_eq] using h
    obtain ⟨line, hfind⟩ := Option.isSome_iff_exists.mp hsome
    obtain ⟨hbad, before, after, hlines, hbefore⟩ := List.find?_eq_some_iff_append.mp hfind
    exact ⟨before, line, after, hlines, of_decide_eq_true hbad, by simpa using hbefore⟩
  obtain ⟨fault, hfault⟩ := exists_faulty_iff.mpr hbad
  exact ⟨fault, before, line, after, hlines, hbefore, hfault⟩

theorem ofText_of_forall_not_bad {text : Text} (h : ∀ line ∈ text.splitOn '\n', ¬Bad line) :
    ofText text = .ok ⟨({} : Config).override (lastValue? (text.splitOn '\n')),
      unknownKeys (text.splitOn '\n')⟩ :=
  readLines_of_forall_not_bad h ⟨{}, []⟩ 1

theorem ofText_error_iff (text : Text) (fault : ConfigError) :
    ofText text = .error fault ↔ FirstFault (text.splitOn '\n') fault := by
  have hread {fault : ConfigError} (h : FirstFault (text.splitOn '\n') fault) :
      ofText text = .error fault := by
    obtain ⟨before, line, after, hlines, hbefore, hfault⟩ := h
    rw [Nat.add_comm] at hfault
    rw [ofText, hlines, readLines_of_faulty _ 1 hbefore hfault]
  refine ⟨fun herror ↦ ?_, hread⟩
  by_cases hbad : ∃ line ∈ text.splitOn '\n', Bad line
  · obtain ⟨first, hfirst⟩ := exists_firstFault hbad
    obtain rfl : first = fault := by simpa [hread hfirst] using herror
    exact hfirst
  · push Not at hbad
    rw [ofText_of_forall_not_bad hbad] at herror
    cases herror

end Reading

/-! ### The order of lines -/

/-- The first line gives a value to a known key and the second one gives none to it. -/
def Apart (first second : Text) : Prop :=
  ∃ key ∈ knownKeys, (∃ value, Assigns first key value) ∧ ∀ value, ¬Assigns second key value

/-- The same lines in another order, in which lines that are not apart come as before. -/
inductive Reordered : List Text → List Text → Prop
  | refl (lines : List Text) : Reordered lines lines
  | swap (before : List Text) {first second : Text} (after : List Text)
      (h : Apart first second ∨ Apart second first) :
      Reordered (before ++ first :: second :: after) (before ++ second :: first :: after)
  | trans {lines others further : List Text} (h : Reordered lines others)
      (hrest : Reordered others further) : Reordered lines further

section Order

variable {first second : Text} {lines others : List Text}

theorem Assigns.unique {line key value other given : Text} (h : Assigns line key value)
    (hother : Assigns line other given) : key = other ∧ value = given := by
  rw [← assignment?_eq_some_iff] at h hother
  simpa [h] using hother

/-- Lines for different known keys are apart. -/
theorem apart_of_assigns {key value other given : Text} (h : Assigns first key value)
    (hother : Assigns second other given) (hkey : key ∈ knownKeys) (hne : key ≠ other) :
    Apart first second :=
  ⟨key, hkey, ⟨value, h⟩, fun _ hsecond ↦ hne (hsecond.unique hother).1⟩

theorem Apart.valueOf?_eq_none {key : Text} (h : Apart first second) :
    valueOf? key first = none ∨ valueOf? key second = none := by
  obtain ⟨found, -, ⟨value, hfirst⟩, hsecond⟩ := h
  by_cases hkey : found = key
  · exact .inr (valueOf?_eq_none_iff.mpr (hkey ▸ hsecond))
  · refine .inl (valueOf?_eq_none_iff.mpr fun other hother ↦ ?_)
    exact hkey (hfirst.unique hother).1

theorem Apart.unknownKey?_eq_none (h : Apart first second) : unknownKey? first = none := by
  obtain ⟨key, hkey, ⟨value, hfirst⟩, -⟩ := h
  exact Config.unknownKey?_eq_none hfirst hkey

theorem Reordered.perm (h : Reordered lines others) : lines.Perm others := by
  induction h with
  | refl lines => exact .refl lines
  | swap before after => exact .append_left before (.swap ..)
  | trans _ _ ih ihrest => exact ih.trans ihrest

theorem Reordered.lastValue?_eq (h : Reordered lines others) :
    lastValue? lines = lastValue? others := by
  induction h with
  | refl => rfl
  | @swap before first second after h =>
    funext key
    have hnone : valueOf? key first = none ∨ valueOf? key second = none :=
      h.elim Apart.valueOf?_eq_none fun h ↦ h.valueOf?_eq_none.symm
    -- At most one of the two lines has a value for the key, so either may come first.
    have hswap : (valueOf? key second).or (valueOf? key first) =
        (valueOf? key first).or (valueOf? key second) := by
      rcases hnone with hnone | hnone <;> simp [hnone]
    have hpair (x y : Text) : lastValue? (before ++ x :: y :: after) key =
        (lastValue? after key).or
          (((valueOf? key y).or (valueOf? key x)).or (lastValue? before key)) := by
      rw [← List.singleton_append, ← List.singleton_append (l := after)]
      simp only [lastValue?_append, lastValue?_singleton, Option.or_assoc]
    rw [hpair, hpair, hswap]
  | trans _ _ ih ihrest => exact ih.trans ihrest

theorem Reordered.unknownKeys_eq (h : Reordered lines others) :
    unknownKeys lines = unknownKeys others := by
  induction h with
  | refl => rfl
  | swap before after h =>
    rw [unknownKeys, unknownKeys, List.filterMap_append, List.filterMap_append]
    rcases h with h | h <;> simp [List.filterMap_cons, h.unknownKey?_eq_none]
  | trans _ _ ih ihrest => exact ih.trans ihrest

end Order

/-! ### Files -/

/-- The setting is what the last value of its key reads as, or the default if the key has none. -/
def IsSetting {α : Type} (lines : List Text) (key : Text) (parse : Text → α) (default setting : α) :
    Prop :=
  (∃ value, LastAssigns lines key value ∧ setting = parse value) ∨
    ((∀ line ∈ lines, ∀ value, ¬Assigns line key value) ∧ setting = default)

/-- Each setting is what the lines make of it, and the unknown keys are those of the lines. -/
structure SettledBy (lines : List Text) (loaded : Loaded) : Prop where
  scenarioExtensions : IsSetting lines "scenario_extensions".toList parseExtensions
    [".ks".toList] loaded.config.scenarioExtensions
  catalogExtensions : IsSetting lines "translation_extensions".toList parseExtensions
    [".po".toList] loaded.config.catalogExtensions
  color : IsSetting lines "color".toList (· == "1".toList) true loaded.config.color
  checkNames : IsSetting lines "check_names".toList (· == "1".toList) false loaded.config.checkNames
  encoding : IsSetting lines "encoding".toList id "utf-8".toList loaded.config.encoding
  unknownKeys : loaded.unknownKeys = unknownKeys lines

/-- All unknown keys are told in one line, if there are any. -/
def IsNotice (keys : List Text) (notice : Text) : Prop :=
  (keys = [] ∧ notice = []) ∨
    (keys ≠ [] ∧ ∃ line, '\n' ∉ line ∧
      line = "Ignoring unknown config keys: ".toList ++ Text.joinWith ", ".toList keys ∧
      notice = line ++ ['\n'])

section File

variable {lines : List Text}

theorem isSetting_lastValue? {α : Type} (lines : List Text) (key : Text) (parse : Text → α)
    (default : α) :
    IsSetting lines key parse default (((lastValue? lines key).map parse).getD default) := by
  cases h : lastValue? lines key with
  | none => exact .inr ⟨lastValue?_eq_none_iff.mp h, rfl⟩
  | some value => exact .inl ⟨value, lastValue?_eq_some_iff.mp h, rfl⟩

theorem settledBy_override (lines : List Text) :
    SettledBy lines ⟨({} : Config).override (lastValue? lines), unknownKeys lines⟩ where
  scenarioExtensions := isSetting_lastValue? ..
  catalogExtensions := isSetting_lastValue? ..
  color := isSetting_lastValue? ..
  checkNames := isSetting_lastValue? ..
  encoding := by
    have h := isSetting_lastValue? lines "encoding".toList id "utf-8".toList
    rwa [Option.map_id_fun, id_eq] at h
  unknownKeys := rfl

theorem feed_notMem_of_mem_unknownKeys {text key : Text}
    (h : key ∈ unknownKeys (text.splitOn '\n')) : '\n' ∉ key := by
  obtain ⟨line, hline, hkey⟩ := List.mem_filterMap.mp h
  obtain ⟨⟨value, -, left, right, htrim, -, rfl, rfl⟩, -⟩ := unknownKey?_eq_some_iff.mp hkey
  intro hfeed
  have hleft : '\n' ∈ line.trim := by
    rw [htrim]
    exact List.mem_append_left _ (Text.mem_of_mem_trim hfeed)
  exact Text.notMem_of_mem_splitOn hline (Text.mem_of_mem_trim hleft)

theorem isNotice_notice (config : Config) {keys : List Text} (h : ∀ key ∈ keys, '\n' ∉ key) :
    IsNotice keys (Loaded.notice ⟨config, keys⟩) := by
  cases keys with
  | nil => exact .inl ⟨rfl, rfl⟩
  | cons key keys =>
    refine .inr ⟨List.cons_ne_nil _ _, _, ?_, rfl, if_neg Bool.false_ne_true⟩
    intro hfeed
    rcases List.mem_append.mp hfeed with hlead | hjoined
    · exact absurd hlead (by decide)
    · rcases Text.mem_joinWith hjoined with hglue | ⟨piece, hpiece, hfeed⟩
      · exact absurd hglue (by decide)
      · exact h piece hpiece hfeed

/-- What a file settles. Its first bad line is the error, whatever comes after it. Without one, each
setting is that of the last line for its key, the unknown keys are told in one line, and no order
of lines counts but the one among lines for the same known key and among unknown keys. -/
theorem ofText_settings (text : Text) :
    ((∃ fault, ofText text = .error fault) ↔ ∃ line ∈ text.splitOn '\n', Bad line) ∧
    (∀ fault, ofText text = .error fault ↔ FirstFault (text.splitOn '\n') fault) ∧
    ((∀ line ∈ text.splitOn '\n', ¬Bad line) → ∃ loaded, ofText text = .ok loaded ∧
      SettledBy (text.splitOn '\n') loaded ∧
      IsNotice (unknownKeys (text.splitOn '\n')) loaded.notice ∧
      ∀ other : Text, Reordered (text.splitOn '\n') (other.splitOn '\n') →
        ofText other = .ok loaded) := by
  refine ⟨?_, ofText_error_iff text, fun hbad ↦ ?_⟩
  · simp only [ofText_error_iff]
    refine ⟨?_, exists_firstFault⟩
    rintro ⟨fault, before, line, after, hlines, -, hfault⟩
    rw [hlines]
    exact ⟨line, List.mem_append_right _ List.mem_cons_self, exists_faulty_iff.mp ⟨fault, hfault⟩⟩
  · refine ⟨_, ofText_of_forall_not_bad hbad, settledBy_override _,
      isNotice_notice _ fun key ↦ feed_notMem_of_mem_unknownKeys, fun other hother ↦ ?_⟩
    have hgood : ∀ line ∈ other.splitOn '\n', ¬Bad line := fun line hline ↦
      hbad line (hother.perm.mem_iff.mpr hline)
    rw [ofText_of_forall_not_bad hgood, hother.lastValue?_eq, hother.unknownKeys_eq]

/-- Two colours and a key that is not known; the line for the encoding may stand anywhere. -/
theorem ofText_settings_twoColors :
    (∀ line ∈ Text.splitOn '\n' "color=0\n#\nfoo=1\nencoding = ascii\ncolor=1".toList,
      ¬Bad line) ∧
    ∃ loaded, ofText "color=0\n#\nfoo=1\nencoding = ascii\ncolor=1".toList = .ok loaded ∧
      loaded = ⟨{ color := true, encoding := "ascii".toList }, ["foo".toList]⟩ ∧
      ofText "color=0\n#\nencoding = ascii\nfoo=1\ncolor=1".toList = .ok loaded := by
  have hbad : ∀ line ∈ Text.splitOn '\n' "color=0\n#\nfoo=1\nencoding = ascii\ncolor=1".toList,
      ¬Bad line := by decide
  have hencoding : Assigns "encoding = ascii".toList "encoding".toList "ascii".toList :=
    valueOf?_eq_some_iff.mp (by decide)
  have hfoo : Assigns "foo=1".toList "foo".toList "1".toList :=
    valueOf?_eq_some_iff.mp (by decide)
  have hreordered : Reordered
      (Text.splitOn '\n' "color=0\n#\nfoo=1\nencoding = ascii\ncolor=1".toList)
      (Text.splitOn '\n' "color=0\n#\nencoding = ascii\nfoo=1\ncolor=1".toList) :=
    .swap ["color=0".toList, "#".toList] ["color=1".toList]
      (.inr (apart_of_assigns hencoding hfoo (by decide) (by decide)))
  obtain ⟨loaded, hloaded, -, -, hother⟩ := (ofText_settings _).2.2 hbad
  exact ⟨hbad, loaded, hloaded, Except.ok.inj (hloaded.symm.trans (by decide)),
    hother _ hreordered⟩

example : ofText "color=1\ncolor=2\ncolor".toList =
    .error (.invalidFlag "color".toList "2".toList) := by decide

end File

end CopyEditor.Config
