import CopyEditor.Console
import CopyEditor.Proofs.Text.Tally

/-!
What a console shows of the diagnostics that it receives. A diagnostic is written in parts, one
below the other: as it is read, the parts are plain (`Diagnostic.text_eq_joinWith`), and as it is
printed, each of them is painted on its own (`Diagnostic.printed_eq_joinWith`). Without colours, a
console prints what is read. Its totals count every diagnostic once, and list each message with the
number of its diagnostics (`Totals.text_ofList`).
-/

set_option autoImplicit false
set_option relaxedAutoImplicit false

namespace CopyEditor

namespace Diagnostic

variable (d : Diagnostic Text)

/-- The parts of a diagnostic with their colours: the header, on a line the excerpt, and at a column
the caret. -/
def parts : List (Color × Text) :=
  (d.severity.color, d.header) ::
    match d.line with
    | none => []
    | some _ => (.yellow, d.excerpt) :: if d.column < 0 then [] else [(.cyan, d.caret)]

theorem text_eq_joinWith : d.text = Text.joinWith ['\n'] (d.parts.map Prod.snd) := by
  unfold text parts
  cases d.line with
  | none => rfl
  | some line =>
    dsimp only
    split_ifs with hcolumn
    · simp [Text.joinWith_cons_cons]
    · simp [Text.joinWith_cons_cons]

theorem printed_eq_joinWith (color : Bool) :
    d.printed color =
      Text.joinWith ['\n'] (d.parts.map fun (shade, part) ↦ shade.paint color part) ++ ['\n'] := by
  unfold printed parts
  cases d.line with
  | none => simp
  | some line =>
    dsimp only
    split_ifs with hcolumn
    · simp [Text.joinWith_cons_cons]
    · simp [Text.joinWith_cons_cons]

theorem printed_false : d.printed false = d.text ++ ['\n'] := by
  rw [printed_eq_joinWith, text_eq_joinWith]
  rfl

end Diagnostic

/-- The totals of messages list each of them once, in code point order, with its count. -/
theorem Totals.text_ofList (messages : List Text) :
    Totals.text (Tally.ofList messages) =
      if messages.isEmpty then []
      else
        "Total stats:\n".toList ++ ((Tally.ofList messages).map Prod.fst).flatMap fun message ↦
          '\t' :: message ++ ": ".toList ++ Text.ofNat (messages.count message) ++ ['\n'] := by
  have hempty : (Tally.ofList messages).isEmpty = messages.isEmpty := by
    rw [Bool.eq_iff_iff, List.isEmpty_iff, List.isEmpty_iff, Tally.ofList_eq_nil_iff]
  rw [text, hempty]
  congr 2
  -- the entries on the left become their keys with the counts of these
  conv_lhs => rw [Tally.ofList_eq_map]
  rw [List.flatMap_map]

/-- What a console has printed, and its totals. -/
@[ext]
structure Console where
  printed : Text
  totals : Totals

namespace Console

def start : Console := ⟨[], []⟩

/-- A diagnostic is counted and printed as it comes. -/
def receive (color : Bool) (console : Console) (d : Diagnostic Text) : Console where
  printed := console.printed ++ d.printed color
  totals := console.totals.add d.message

def receiveAll (color : Bool) (console : Console) (ds : List (Diagnostic Text)) : Console :=
  ds.foldl (receive color) console

theorem receiveAll_cons (color : Bool) (console : Console) (d : Diagnostic Text)
    (ds : List (Diagnostic Text)) :
    console.receiveAll color (d :: ds) = (receive color console d).receiveAll color ds := rfl

theorem receiveAll_append (color : Bool) (console : Console) (ds ds' : List (Diagnostic Text)) :
    console.receiveAll color (ds ++ ds') = (console.receiveAll color ds).receiveAll color ds' :=
  List.foldl_append

theorem printed_receiveAll (color : Bool) (console : Console) (ds : List (Diagnostic Text)) :
    (console.receiveAll color ds).printed = console.printed ++ ds.flatMap (·.printed color) := by
  induction ds generalizing console with
  | nil => exact (List.append_nil _).symm
  | cons d ds ih =>
    rw [receiveAll_cons, ih, List.flatMap_cons, ← List.append_assoc]
    rfl

theorem totals_receiveAll (color : Bool) (console : Console) (ds : List (Diagnostic Text)) :
    (console.receiveAll color ds).totals =
      (ds.map (·.message)).foldl (fun totals message ↦ totals.add message) console.totals := by
  induction ds generalizing console with
  | nil => rfl
  | cons d ds ih =>
    rw [receiveAll_cons, ih]
    rfl

/-- A console prints every diagnostic as it is read, or with colours each of its parts painted on
its own, and its totals are those of all the messages. -/
theorem shown_and_counted (ds : List (Diagnostic Text)) :
    (start.receiveAll false ds).printed = ds.flatMap (fun d ↦ d.text ++ ['\n']) ∧
    ((∀ d ∈ ds, d.text = Text.joinWith ['\n'] (d.parts.map Prod.snd)) ∧
      (start.receiveAll true ds).printed = ds.flatMap fun d ↦
        Text.joinWith ['\n'] (d.parts.map fun (color, part) ↦
          color.sequence ++ part ++ Color.reset.sequence) ++ ['\n']) ∧
    ∀ color, (start.receiveAll color ds).totals.total = ds.length ∧
      ∃ messages : List Text, messages.Pairwise (· < ·) ∧
        (∀ message, message ∈ messages ↔ ∃ d ∈ ds, d.message = message) ∧
        (start.receiveAll color ds).totals.text =
          if ds.isEmpty then []
          else
            "Total stats:\n".toList ++ messages.flatMap fun message ↦
              '\t' :: message ++ ": ".toList ++
                Text.ofNat ((ds.map (·.message)).count message) ++ ['\n'] := by
  refine ⟨?_, ⟨fun d _ ↦ d.text_eq_joinWith, ?_⟩, fun color ↦ ?_⟩
  · rw [printed_receiveAll]
    exact List.flatMap_congr fun d _ ↦ d.printed_false
  · rw [printed_receiveAll]
    exact List.flatMap_congr fun d _ ↦ d.printed_eq_joinWith true
  · have htotals : (start.receiveAll color ds).totals = Tally.ofList (ds.map (·.message)) :=
      totals_receiveAll color start ds
    rw [htotals]
    refine ⟨?_, _, Tally.pairwise_map_fst_ofList (ds.map (·.message)), fun message ↦ ?_, ?_⟩
    · rw [Tally.ofList, Tally.total_foldl_add, List.length_map]
      exact Nat.zero_add _
    · rw [Tally.mem_map_fst_ofList, List.mem_map]
    · rw [Totals.text_ofList, List.isEmpty_map]

example :
    (start.receiveAll false
      [⟨.style, "a.po".toList, some 1, none, "multiple spaces".toList, "a  b".toList, 1⟩,
        ⟨.style, "a.po".toList, some 2, none, "multiple spaces".toList, "c  d".toList, 1⟩,
        ⟨.file, "a.po".toList, none, none, "broken".toList, [], -1⟩]).totals.text =
      "Total stats:\n\tbroken: 1\n\tmultiple spaces: 2\n".toList := by
  decide

end Console

end CopyEditor
