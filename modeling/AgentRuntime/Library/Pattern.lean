import Mathlib.Data.List.Basic

/-!
# Tests of a text against a regular expression

The patterns are alternatives of characters in a row, some of them optional, and are
tested anywhere in a text and without regard to case.
-/

namespace AgentRuntime.Library

/-- An item of a regular expression that is tested without regard to case. -/
inductive PatternItem where
  | one (accepts : Char → Bool)
  | optional (accepts : Char → Bool)

/-- A text starts with a match of the pattern. -/
def startsWith : List PatternItem → List Char → Bool
  | [], _ => true
  | .one accepts :: rest, c :: text => accepts c && startsWith rest text
  | .one _ :: _, [] => false
  | .optional accepts :: rest, c :: text =>
      startsWith rest (c :: text) || (accepts c && startsWith rest text)
  | .optional _ :: rest, [] => startsWith rest []

/-- One of the alternatives matches somewhere in the message. -/
def test (alternatives : List (List PatternItem)) (message : String) : Bool :=
  message.toList.tails.any fun text => alternatives.any fun pattern => startsWith pattern text

/-- The characters of a word, in either case. -/
def word (letters : String) : List PatternItem :=
  letters.toList.map fun letter => .one fun c => c.toLower = letter

/-- A text that starts with a word has each of its letters, in one case or the other. -/
theorem startsWith_word_letter {letters : String} {letter : Char} {text : List Char}
    (matched : startsWith (word letters) text = true) (member : letter ∈ letters.toList) :
    ∃ c ∈ text, c.toLower = letter := by
  rw [word] at matched
  generalize letters.toList = list at matched member
  induction list generalizing text with
  | nil => cases member
  | cons first rest ih =>
      cases text with
      | nil => cases matched
      | cons c text =>
          simp only [List.map_cons, startsWith, Bool.and_eq_true, decide_eq_true_eq] at matched
          rcases List.mem_cons.mp member with rfl | member
          · exact ⟨c, List.mem_cons_self, matched.1⟩
          · obtain ⟨found, present, same⟩ := ih matched.2 member
            exact ⟨found, List.mem_cons_of_mem c present, same⟩

end AgentRuntime.Library
