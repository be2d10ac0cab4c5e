/-!
# The order of texts

Texts in the order of their code points, which is also the order of their UTF-8
octets.
-/

namespace Conch.Text

/-- Whether the first text is at most the second. -/
def le : List Char → List Char → Bool
  | [], _ => true
  | _ :: _, [] => false
  | a :: as, b :: bs => if a = b then le as bs else decide (a.toNat < b.toNat)

/-- Whether a text with a key is at most another: by keys first, then by the texts. -/
def keyedLe (a b : List Char × List Char) : Bool :=
  if a.1 = b.1 then le a.2 b.2 else le a.1 b.1

end Conch.Text
