import DocStubs.Text.CharSet

/-!
# Tables that give every code point a label

The data of a standard that assigns each code point one of several values, such as a category or
a script, is written as a run-length text: the label of every run, a capital letter and small
letters, then the length of the run when it is not one. The runs follow each other from the code
point zero on.

## Main definitions

* `Runs`, `Runs.ofText` — the first code point of every run with its label, read from a text
* `Runs.members` — the code points whose label passes a test
-/

namespace DocStubs

/-- The first code point of every run with the label of the run, in increasing order. -/
abbrev Runs := List (Nat × String)

namespace Runs

/-- Reads the runs after the start of a label: `start` is the first code point of the run being
read, and `letters` are those of its label in reverse. -/
def read (start : Nat) (letters : List Char) (count : Nat) : List Char → Runs
  | [] => [(start, String.ofList letters.reverse)]
  | c :: rest =>
    if c.isDigit then read start letters (count * 10 + (c.toNat - 48)) rest
    else if c.isUpper then
      (start, String.ofList letters.reverse) :: read (start + max 1 count) [c] 0 rest
    else read start (c :: letters) count rest

/-- The runs of a run-length text. -/
def ofText (text : String) : Runs :=
  match text.toList with
  | first :: rest => read 0 [first] 0 rest
  | [] => []

/-- The ranges of the runs whose label passes a test. -/
def ranges (test : String → Bool) : Runs → List CharRange
  | [] => []
  | [(start, label)] => if test label then [⟨start, lastCode⟩] else []
  | (start, label) :: (next, other) :: rest =>
    let after := ranges test ((next, other) :: rest)
    if test label then ⟨start, next - 1⟩ :: after else after

/-- The code points whose label passes a test. -/
def members (runs : Runs) (test : String → Bool) : CharSet :=
  ⟨(CharSet.join (ranges test runs)).toArray⟩

end Runs

end DocStubs
