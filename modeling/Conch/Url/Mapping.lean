import Conch.Text.Lowercase
import Conch.Unicode.Composition
import Conch.Unicode.NameMapping

/-!
# Names in one form

Names of hosts are compared without regard to case and to the ways of writing one
character.  Every name is therefore brought into one form: each character is replaced by
its image, and the result is composed.  Some characters may not stand in a name at all.
-/

namespace Conch.Url

/-- The code points that are left out. -/
def ignoredTable : Array Unicode.Range :=
  Unicode.readRanges Unicode.nameIgnored

/-- The two joiners, which names may hold although they are format characters. -/
def joiners : Unicode.Charset :=
  [⟨0x200C, 0x200D⟩]

/-- The code points beyond ASCII that names may not have. -/
def refusedTable : Array Unicode.Range :=
  let edition := Unicode.Edition.seventeen
  let formless := edition.gather ["Cc", "Cf", "Co", "Zl", "Zp"] []
  let formless := (formless.union edition.unassigned).difference joiners
  (formless.union (Unicode.readRanges Unicode.nameRefused).toList).toArray

/-- The code points that stand for themselves although they have a lower-case form. -/
def keptTable : Array Unicode.Range :=
  Unicode.readRanges Unicode.nameKept

/-- The runs of images. -/
def runTable : Array Unicode.Run :=
  Unicode.readRuns Unicode.nameRuns

/-- The images outside of runs. -/
def imageTable : Array (Nat × List Nat) :=
  Unicode.readImages Unicode.nameImages

/-- The image of a character in names; `none` if names may not have it. -/
def image? (c : Char) : Option (List Char) :=
  let n := c.toNat
  if n < 0x80 then some [Text.asciiLowerChar c]
  else if Unicode.inRanges ignoredTable n then some []
  else if Unicode.inRanges refusedTable n then none
  else
    match Unicode.imageIn? imageTable n with
    | some image => some (image.map Char.ofNat)
    | none =>
        match Unicode.imageUnder? runTable n with
        | some image => some [Char.ofNat image]
        | none => some (if Unicode.inRanges keptTable n then [c] else Text.lowerChar c)

/-- A text in the form of names; `none` if a name cannot hold it. -/
def nameForm? (text : List Char) : Option (List Char) :=
  (text.mapM image?).map fun images =>
    (Unicode.composedForm (images.flatten.map Char.toNat)).map Char.ofNat

end Conch.Url
