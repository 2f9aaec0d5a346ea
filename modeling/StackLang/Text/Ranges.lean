/-! # Ranges of characters

A property of characters given by a table of closed ranges of code points.

* `Ranges` — such a table, its ranges ascending and apart.
* `Ranges.contains` — whether a character lies in one of the ranges. -/

namespace StackLang.Text

/-- Closed ranges of code points, each given by its first and its last one. -/
abbrev Ranges := List (Nat × Nat)

namespace Ranges

/-- Whether the code point of a character lies in one of the ranges. -/
def contains (ranges : Ranges) (character : Char) : Bool :=
  ranges.any fun (first, last) => first ≤ character.toNat && character.toNat ≤ last

/-- The ranges are ascending, and no two of them touch. -/
def apart : Ranges → Bool
  | [] => true
  | [(first, last)] => first ≤ last
  | (first, last) :: (next, end') :: rest =>
      first ≤ last && last + 1 < next && apart ((next, end') :: rest)

@[simp] theorem contains_nil (character : Char) : contains [] character = false := rfl

@[simp] theorem contains_cons (first last : Nat) (rest : Ranges) (character : Char) :
    contains ((first, last) :: rest) character
      = ((first ≤ character.toNat && character.toNat ≤ last) || contains rest character) := rfl

end Ranges

end StackLang.Text
