import CopyEditor.Finding
import Mathlib.Data.List.Nodup

/-!
Messages tell findings apart. Most findings say nothing of the text that they are found in, and
their messages are all different (`Finding.messages_apart`). The other two kinds name a character or
a word, and how their messages begin gives them away. So a message of the first sort belongs to one
finding alone (`Finding.eq_of_message_eq`).
-/

set_option autoImplicit false
set_option relaxedAutoImplicit false

namespace CopyEditor.Finding

/-- Every finding whose message does not depend on the text that it is found in. -/
def constants : List Finding :=
  [.straightApostrophe, .tripleDots, .consecutiveDots, .quoteCurled, .badQuotes, .apostropheCurled,
    .badApostrophe, .dialogueStillOpen, .dialogueInCitation, .noDialogueToEnd,
    .unbalancedGuillemets, .noCitationToEnd, .citationStillOpen, .guillemetOrder true,
    .guillemetOrder false, .malformedPageMarker, .spaceAfterDirective, .sayWithoutStorage,
    .malformedSpeaker, .elseWithoutIf, .endifWithoutIf, .dialogueMismatch .plain,
    .dialogueMismatch .withElse, .citationMismatch .plain, .citationMismatch .withElse,
    .paragraphMismatch .plain, .paragraphMismatch .withElse, .dialogueUnterminated .page,
    .dialogueUnterminated .file, .citationUnterminated .page, .citationUnterminated .file,
    .entryNotFinished, .locationExpectsKey, .contextExpectsSource, .sourceExpectsTarget,
    .targetNotFinished, .quoteInLocation] ++ StyleRule.all.map .style

theorem constants_cases (finding : Finding) : finding ∈ constants ∨
    (∃ c, finding = .unexpectedCharacter c) ∨ ∃ word name, finding = .nearName word name := by
  cases finding with
  | unexpectedCharacter c => exact .inr (.inl ⟨c, rfl⟩)
  | nearName word name => exact .inr (.inr ⟨word, name, rfl⟩)
  | guillemetOrder insideCitation => cases insideCitation <;> exact .inl (by decide)
  | dialogueMismatch block | citationMismatch block | paragraphMismatch block =>
    cases block <;> exact .inl (by decide)
  | dialogueUnterminated extent | citationUnterminated extent =>
    cases extent <;> exact .inl (by decide)
  | style rule => cases rule <;> exact .inl (by decide)
  | _ => exact .inl (by decide)

/-- No two of these messages are the same, and none begins like one that names a character or a
word. -/
theorem messages_apart : (constants.map message).Nodup ∧ ∀ text ∈ constants.map message,
    ¬"unexpected character, code : ".toList <+: text ∧ ¬"is '".toList <+: text := by
  decide +kernel

theorem eq_of_message_eq {finding found : Finding} (hfound : found ∈ constants)
    (h : finding.message = found.message) : finding = found := by
  obtain ⟨hnodup, hleads⟩ := messages_apart
  obtain ⟨hcharacter, hword⟩ := hleads _ (List.mem_map_of_mem hfound)
  rw [← h] at hcharacter hword
  rcases finding.constants_cases with hfinding | ⟨c, rfl⟩ | ⟨word, name, rfl⟩
  · exact List.inj_on_of_nodup_map hnodup hfinding hfound h
  · exact absurd (List.prefix_append _ _) hcharacter
  · have hmessage : (nearName word name).message = "is '".toList ++ word ++
        "' supposed to be '".toList ++ name ++ "'".toList := rfl
    rw [List.append_assoc, List.append_assoc, List.append_assoc] at hmessage
    exact absurd (hmessage ▸ List.prefix_append _ _) hword

theorem message_eq_iff {finding : Finding} (found : Finding) (hfound : found ∈ constants) :
    finding.message = found.message ↔ finding = found :=
  ⟨eq_of_message_eq hfound, congrArg message⟩

theorem message_mem_map_iff {finding : Finding} {among : List Finding} (h : among ⊆ constants) :
    finding.message ∈ among.map message ↔ finding ∈ among := by
  refine ⟨fun hmessage ↦ ?_, List.mem_map_of_mem⟩
  obtain ⟨found, hfound, heq⟩ := List.mem_map.mp hmessage
  rwa [eq_of_message_eq (h hfound) heq.symm]

end CopyEditor.Finding
