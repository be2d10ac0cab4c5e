import Conch.Text.Ascii
import Conch.Text.Pieces

/-!
# Ranges of code points

Tables of code points are written as texts of hexadecimal ranges in ascending order.
This module reads them and looks code points up.  A range is written as one code point or
as its two ends with a hyphen between them; with `/2` behind it, it takes every second code
point.
-/

namespace Conch.Unicode

/-- A range of code points with both its ends. -/
structure Range where
  first : Nat
  last : Nat
  deriving DecidableEq, Repr, Inhabited

/-- The number that hexadecimal digits write; other characters count as zero. -/
def readHex (digits : List Char) : Nat :=
  digits.foldl (fun n c => 16 * n + (Text.hexValue? c).getD 0) 0

/-- The words of a table text. -/
def tableWords (table : String) : List (List Char) :=
  (Text.splitBy (fun c => c = ' ' || c = '\n') table.toList).filter fun word => !word.isEmpty

/-- Reads one range: one end, or two with a hyphen between them. -/
def readRange (word : List Char) : Range :=
  match Text.splitBy (· = '-') word with
  | [first, last] => ⟨readHex first, readHex last⟩
  | [only] => ⟨readHex only, readHex only⟩
  | _ => ⟨0, 0⟩

/-- Every so many code points of a range, beginning with its first. -/
def Range.every (step : Nat) (range : Range) : List Range :=
  (List.range ((range.last - range.first) / step + 1)).map fun index =>
    let n := range.first + index * step
    ⟨n, n⟩

/-- Reads the ranges of one word. -/
def readWord (word : List Char) : List Range :=
  match Text.splitBy (· = '/') word with
  | [range, step] => (readRange range).every (readHex step)
  | _ => [readRange word]

/-- Reads the ranges of a table text. -/
def readRanges (table : String) : Array Range :=
  ((tableWords table).flatMap readWord).toArray

/-- Searches the ascending ranges from index `low` up to `high` for a code point. -/
def searchRanges (ranges : Array Range) (n : Nat) : Nat → Nat → Nat → Bool
  | 0, _, _ => false
  | steps + 1, low, high =>
      if high ≤ low then false
      else
        let middle := (low + high) / 2
        match ranges[middle]? with
        | none => false
        | some range =>
            if n < range.first then searchRanges ranges n steps low middle
            else if range.last < n then searchRanges ranges n steps (middle + 1) high
            else true

/-- Whether a code point lies in one of the ascending ranges. -/
def inRanges (ranges : Array Range) (n : Nat) : Bool :=
  searchRanges ranges n (ranges.size + 1) 0 ranges.size

/-- The ranges of all tables of a name. -/
def tableRanges (tables : List (String × String)) (name : String) : List Range :=
  tables.flatMap fun (title, table) => if title = name then (readRanges table).toList else []

/-- A run of code points with an image each: from `first` to `last` in steps, every image
at the same distance. -/
structure Run where
  first : Nat
  last : Nat
  step : Nat
  distance : Int
  deriving DecidableEq, Repr, Inhabited

/-- Reads a distance, which may be negative. -/
def readDistance : List Char → Int
  | '-' :: digits => -(readHex digits : Int)
  | digits => readHex digits

/-- Reads one run. -/
def readRun (word : List Char) : Run :=
  match Text.splitBy (· = ':') word with
  | [points, distance] =>
      match Text.splitBy (· = '/') points with
      | [range, step] =>
          let range := readRange range
          ⟨range.first, range.last, readHex step, readDistance distance⟩
      | _ =>
          let range := readRange points
          ⟨range.first, range.last, 1, readDistance distance⟩
  | _ => ⟨0, 0, 1, 0⟩

/-- Reads the runs of a table text. -/
def readRuns (table : String) : Array Run :=
  ((tableWords table).map readRun).toArray

/-- Searches the ascending runs from index `low` up to `high` for the one that covers a
code point. -/
def searchRuns (runs : Array Run) (n : Nat) : Nat → Nat → Nat → Option Run
  | 0, _, _ => none
  | steps + 1, low, high =>
      if high ≤ low then none
      else
        let middle := (low + high) / 2
        match runs[middle]? with
        | none => none
        | some run =>
            if n < run.first then searchRuns runs n steps low middle
            else if run.last < n then searchRuns runs n steps (middle + 1) high
            else some run

/-- The image of a code point under ascending runs, if some run has it. -/
def imageUnder? (runs : Array Run) (n : Nat) : Option Nat :=
  match searchRuns runs n (runs.size + 1) 0 runs.size with
  | some run =>
      if (n - run.first) % run.step = 0 then some (n + run.distance).toNat else none
  | none => none

/-- One more word of a table of images: a code point with a colon behind it, or the image of
the next code point.  The images read before are held last first. -/
def readImage (state : Nat × List (Nat × List Nat)) (word : List Char) :
    Nat × List (Nat × List Nat) :=
  match word.getLast? with
  | some ':' => (readHex word.dropLast, state.2)
  | _ => (state.1 + 1, (state.1, (Text.splitBy (· = '.') word).map readHex) :: state.2)

/-- Reads a table of images.  A code point with a colon behind it is followed by its image and
by those of the code points after it; an image of several code points has dots between
them. -/
def readImages (table : String) : Array (Nat × List Nat) :=
  ((tableWords table).foldl readImage (0, [])).2.reverse.toArray

/-- Searches the ascending images from index `low` up to `high` for that of a code point. -/
def searchImages (images : Array (Nat × List Nat)) (n : Nat) : Nat → Nat → Nat →
    Option (List Nat)
  | 0, _, _ => none
  | steps + 1, low, high =>
      if high ≤ low then none
      else
        let middle := (low + high) / 2
        match images[middle]? with
        | none => none
        | some (code, image) =>
            if n < code then searchImages images n steps low middle
            else if code < n then searchImages images n steps (middle + 1) high
            else some image

/-- The image of a code point in an ascending table, if it has one. -/
def imageIn? (images : Array (Nat × List Nat)) (n : Nat) : Option (List Nat) :=
  searchImages images n (images.size + 1) 0 images.size

end Conch.Unicode
