import MessageTemplate.Text.Word

/-!
# Phrases in a text, in any case

Model of the patterns of `DISCOURAGED_CONTENT` of `builder.validator`, each a choice of phrases.

* `matchesLetter` — a small letter and the characters that are the same letter in another case;
* `occursAnywhere` — a phrase occurs in a text;
* `occursAsWords` — a phrase occurs with a word boundary on both sides.
-/

set_option autoImplicit false

namespace MessageTemplate.Text

/-- Characters beyond the basic alphabet that are a letter of it in another case. -/
def foldedLetters : List (Char × List Char) :=
  [('i', ['İ', 'ı']), ('s', ['ſ']), ('k', ['\u212a'])]

/-- Whether a character is the given small letter (or other sign) in some case. -/
def matchesLetter (letter c : Char) : Bool :=
  c.toLower == letter || ((foldedLetters.lookup letter).getD []).contains c

/-- What follows a phrase at the front of a text. -/
def afterPhrase? : List Char → List Char → Option (List Char)
  | [], cs => some cs
  | _ :: _, [] => none
  | p :: phrase, c :: cs => if matchesLetter p c then afterPhrase? phrase cs else none

/-- Whether one of the phrases occurs in a text. -/
def occursAnywhere (phrases : List (List Char)) : List Char → Bool
  | [] => phrases.any (·.isEmpty)
  | c :: cs =>
    (phrases.any fun p => (afterPhrase? p (c :: cs)).isSome) || occursAnywhere phrases cs

/-- Whether one of the phrases occurs as whole words, given the character before the text. -/
def occursAsWordsFrom (phrases : List (List Char)) (before : Option Char) : List Char → Bool
  | [] => false
  | c :: cs =>
    (startsWord before && phrases.any fun p =>
      match afterPhrase? p (c :: cs) with
      | some after => endsWord after
      | none => false) ||
    occursAsWordsFrom phrases (some c) cs

/-- Whether one of the phrases occurs as whole words. -/
def occursAsWords (phrases : List (List Char)) (cs : List Char) : Bool :=
  occursAsWordsFrom phrases none cs

end MessageTemplate.Text
