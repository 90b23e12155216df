import CopyEditor.Command.Arguments
import Mathlib.Data.List.Basic

/-!
Which arguments ask for a check: those with `--check` among them before `--`, written in full, since
every shorter form could also be `--check-names` (`check_iff`).
-/

set_option autoImplicit false
set_option relaxedAutoImplicit false

namespace CopyEditor.Command

variable {argument lead : Text} {arguments : List Text} {token : Token} {tokens : List Token}
  {reader : Reader} {options : Options}

def checkArgument : Text := "--check".toList

def checkToken : Token := .option (.switch .check) none

/-! ### Reading tokens -/

theorem check_assign (value : Option Text) (setting : Setting) :
    (options.assign value setting).check = options.check := by cases setting <;> rfl

theorem check_turnOn (switch : Switch) :
    (options.turnOn switch).check = true ↔ options.check = true ∨ switch = .check := by
  cases switch <;> simp [Options.turnOn]

theorem Reader.check_takeWord (word : Text) :
    (reader.takeWord word).options.check = reader.options.check := by
  unfold takeWord
  split_ifs <;> rfl

theorem Reader.check_takeSeparator :
    reader.takeSeparator.options.check = reader.options.check := by
  unfold takeSeparator
  split_ifs <;> rfl

/-- Only the token for a check turns it on, and nothing turns it off. -/
theorem Reader.check_of_read (h : reader.read tokens = .run options) :
    options.check = true ↔ reader.options.check = true ∨ checkToken ∈ tokens := by
  fun_induction Reader.read reader tokens with
  | case1 reader =>
    unfold finish at h
    split_ifs at h
    obtain rfl := Request.run.inj h
    simp
  | case2 reader word rest ih =>
    rw [ih h, check_takeWord]
    simp [checkToken]
  | case3 reader rest ih =>
    rw [ih h, check_takeSeparator]
    simp [checkToken]
  | case4 reader rest ih =>
    rw [ih h]
    simp [checkToken, close]
  | case9 reader switch rest ih =>
    have hswitch : checkToken = .option (.switch switch) none ↔ switch = .check := by
      constructor
      · intro heq
        cases heq
        rfl
      · rintro rfl
        rfl
    rw [ih h, check_turnOn, List.mem_cons, hswitch, or_assoc]
  | case11 reader setting value rest ih =>
    rw [ih h, check_assign]
    simp [checkToken]
  | case12 reader setting value rest ih =>
    rw [ih h, check_assign]
    simp [checkToken]
  | case5 | case6 | case7 | case8 | case10 | case13 => cases h

/-! ### Reading one argument -/

/-- No other name is that of a check. -/
theorem eq_checkArgument_of_mem (h : (argument, OptionName.switch .check) ∈ OptionName.longNames) :
    argument = checkArgument := by
  have hall : OptionName.longNames.all
      (fun entry ↦ entry.2 != .switch .check || entry.1 == checkArgument) = true := by decide
  simpa using List.all_eq_true.mp hall _ h

theorem eq_of_ofName?_eq_check (h : OptionName.ofName? argument = some (.switch .check)) :
    argument = checkArgument := by
  obtain ⟨before, after, hnames, -⟩ := List.lookup_eq_some_iff.mp h
  refine eq_checkArgument_of_mem ?_
  rw [hnames]
  exact List.mem_append_right _ (List.mem_cons_self ..)

theorem mem_startingWith_iff {option : OptionName} :
    option ∈ OptionName.startingWith lead ↔
      ∃ name, (name, option) ∈ OptionName.longNames ∧ name.startsWith lead = true := by
  simp [OptionName.startingWith]

/-- What the name of a check starts with, the name of `--check-names` starts with as well. -/
theorem startingWith_ne_check : OptionName.startingWith lead ≠ [.switch .check] := by
  intro h
  have hcheck : OptionName.switch .check ∈ OptionName.startingWith lead := by
    rw [h]
    exact List.mem_singleton_self _
  obtain ⟨name, hname, hlead⟩ := mem_startingWith_iff.mp hcheck
  obtain rfl := eq_checkArgument_of_mem hname
  have hlonger : Text.startsWith "--check-names".toList lead = true := by
    have hstart := List.isPrefixOf_iff_prefix.mp hlead
    exact List.isPrefixOf_iff_prefix.mpr (hstart.trans ⟨"-names".toList, rfl⟩)
  have hnames : OptionName.switch .checkNames ∈ OptionName.startingWith lead :=
    mem_startingWith_iff.mpr ⟨_, by decide, hlonger⟩
  rw [h, List.mem_singleton] at hnames
  cases hnames

theorem ofUnnamed_ne_option (name : OptionName) (value : Option Text) :
    Token.ofUnnamed argument ≠ .option name value := by
  unfold Token.ofUnnamed
  split_ifs <;> simp

theorem ofNamed?_ne_check (h : argument ≠ checkArgument) :
    Token.ofNamed? argument ≠ some checkToken := by
  intro hnamed
  unfold Token.ofNamed? at hnamed
  split at hnamed
  · next name hname =>
    obtain rfl : name = .switch .check := by
      have htoken := Option.some_inj.mp hnamed
      rw [checkToken, Token.option.injEq] at htoken
      exact htoken.1
    exact h (eq_of_ofName?_eq_check hname)
  · split at hnamed
    · next name value _ =>
      obtain ⟨option, -, htoken⟩ := Option.map_eq_some_iff.mp hnamed
      cases htoken
    · cases hnamed

theorem ofShortened?_ne_check : Token.ofShortened? argument ≠ some checkToken := by
  intro hshortened
  unfold Token.ofShortened? at hshortened
  dsimp only at hshortened
  split at hshortened
  · exact ofUnnamed_ne_option _ _ (Option.some_inj.mp hshortened)
  · next found hfound =>
    have htoken := Option.some_inj.mp hshortened
    rw [checkToken, Token.option.injEq] at htoken
    obtain ⟨rfl, -⟩ := htoken
    exact startingWith_ne_check hfound
  · cases hshortened

theorem ofArgument?_eq_check_iff :
    Token.ofArgument? argument = some checkToken ↔ argument = checkArgument := by
  constructor
  · intro h
    by_contra hne
    unfold Token.ofArgument? at h
    split at h
    · split at h
      · next token htoken =>
        obtain rfl := Option.some_inj.mp h
        exact ofNamed?_ne_check hne htoken
      · exact ofShortened?_ne_check h
    · cases h
    · exact ofUnnamed_ne_option _ _ (Option.some_inj.mp h)
    · cases h
  · rintro rfl
    rfl

/-! ### All arguments -/

theorem mem_ofArguments?_iff (h : Token.ofArguments? arguments = some tokens) :
    checkToken ∈ tokens ↔ checkArgument ∈ arguments.takeWhile (· ≠ "--".toList) := by
  induction arguments generalizing tokens with
  | nil =>
    obtain rfl := Option.some_inj.mp h
    simp
  | cons argument rest ih =>
    unfold Token.ofArguments? at h
    split_ifs at h with hseparator
    · obtain rfl := Option.some_inj.mp h
      simp [hseparator, checkToken]
    · simp only [Option.bind_eq_bind, Option.bind_eq_some_iff, Option.pure_def,
        Option.some_inj] at h
      obtain ⟨token, htoken, others, hothers, rfl⟩ := h
      have hfirst : checkToken = token ↔ checkArgument = argument := by
        rw [eq_comm, ← Option.some_inj, ← htoken, ofArgument?_eq_check_iff, eq_comm]
      rw [List.takeWhile_cons_of_pos (by simpa using hseparator), List.mem_cons, List.mem_cons,
        hfirst, ih hothers]

/-- A run is a check exactly if `--check` is among the arguments before `--`. -/
theorem check_iff (h : Request.ofArguments arguments = .run options) :
    options.check = true ↔ checkArgument ∈ arguments.takeWhile (· ≠ "--".toList) := by
  unfold Request.ofArguments at h
  split at h
  · cases h
  · next tokens htokens =>
    rw [Reader.check_of_read h, mem_ofArguments?_iff htokens]
    exact or_iff_right (by decide)

end CopyEditor.Command
