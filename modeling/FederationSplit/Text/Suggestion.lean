import FederationSplit.Text.EditDistance
import FederationSplit.Text.NaturalOrder

namespace FederationSplit.Text

def suggestionLimit (unknown : String) : Nat :=
  unknown.length * 2 / 5 + 1

/--
The distance of two words, if the known one is a suggestion for the unknown one. A different case of
letters alone counts as one step.
-/
def nameDistance? (unknown known : String) : Option Nat :=
  if unknown = known then some 0
  else
    let left := unknown.toList.map Char.toLower
    let right := known.toList.map Char.toLower
    if left = right then some 1 else editDistance? (suggestionLimit unknown) left right

def nearWords (unknown : String) (known : List String) : List (Nat × String) :=
  known.eraseDups.filterMap fun word => (nameDistance? unknown word).map (·, word)

def suggestions (unknown : String) (known : List String) : List String :=
  let sorted := (nearWords unknown known).mergeSort
    fun (distance, word) (otherDistance, other) =>
      ((compare distance otherDistance).then (compareNatural word other)).isLE
  sorted.map (·.2)

/--
The first number in the suggestions for a word that keeps them from being put in order. Only long
words can hold one.
-/
def suggestionObstacle? (unknown : String) (known : List String) : Option OversizedNumber :=
  (nearWords unknown (known.filter (digitLimit < ·.length))).findSome? fun (_, word) =>
    oversizedNumber? word

def alternatives : List String → String
  | [] => ""
  | [word] => s!"'{word}'"
  | [word, last] => s!"'{word}' or '{last}'"
  | words =>
      let quoted := words.map fun word => s!"'{word}'"
      ", ".intercalate quoted.dropLast ++ ", or " ++ quoted.getLastD ""

def didYouMean (words : List String) : String :=
  if words.isEmpty then "" else s!" Did you mean " ++ alternatives (words.take 5) ++ "?"

end FederationSplit.Text
