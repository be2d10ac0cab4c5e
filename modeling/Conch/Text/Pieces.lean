/-!
# Cutting into pieces

The pieces between separators, empty pieces included.  What has `n` separators has
`n + 1` pieces.  Texts are cut between characters, and paths between octets.
-/

namespace Conch.Text

/-- The pieces between the items that `sep` selects. -/
def splitBy {α : Type} (sep : α → Bool) : List α → List (List α)
  | [] => [[]]
  | c :: rest =>
      if sep c then [] :: splitBy sep rest
      else
        match splitBy sep rest with
        | [] => [[c]]
        | piece :: pieces => (c :: piece) :: pieces

/-- Whether the first text starts the second, and what follows it there. -/
def afterStart? : List Char → List Char → Option (List Char)
  | [], s => some s
  | _, [] => none
  | p :: ps, c :: s => if p = c then afterStart? ps s else none

/-- Whether the first text occurs in the second. -/
def occursIn (part : List Char) : List Char → Bool
  | [] => part.isEmpty
  | c :: rest => (afterStart? part (c :: rest)).isSome || occursIn part rest

end Conch.Text
