import RecordRules.Pattern.Charset
import RecordRules.Unicode.CaseOrbit

set_option autoImplicit false

namespace RecordRules

abbrev Ranges := List (Nat × Nat)

namespace Ranges

def push : Nat × Nat → Ranges → Ranges
  | range, [] => [range]
  | (first, last), (first', last') :: rest =>
      if first' ≤ last + 1 then push (first, max last last') rest
      else (first, last) :: (first', last') :: rest

def ofList (ranges : List (Nat × Nat)) : Ranges :=
  (ranges.mergeSort (fun a b => a.1 ≤ b.1)).foldr push []

def gapsFrom (start : Nat) : Ranges → Ranges
  | [] => if start ≤ 0x10FFFF then [(start, 0x10FFFF)] else []
  | (first, last) :: rest =>
      if start < first then (start, first - 1) :: gapsFrom (last + 1) rest
      else gapsFrom (last + 1) rest

def compl (ranges : Ranges) : Ranges := gapsFrom 0 ranges

def contains (ranges : Ranges) (point : Nat) : Bool :=
  ranges.any (fun (first, last) => first ≤ point && point ≤ last)

def near (first last : Nat) (ranges : Ranges) : Ranges :=
  (ranges.dropWhile (·.2 < first)).takeWhile (·.1 ≤ last)

def singles (points : List Nat) : List (Nat × Nat) := points.map fun point => (point, point)

def rootsOf (ranges : Ranges) (link : Unicode.CaseLink) : List Nat :=
  let ⟨first, last, _⟩ := link.roots
  let roots := ranges.near first last
  let others := ranges.near (first + link.offset) (last + link.offset)
  if roots.isEmpty && others.isEmpty then []
  else
    link.roots.points.filter fun root =>
      roots.contains root || others.contains (root + link.offset)

def imagesOf (ranges : Ranges) (link : Unicode.CaseLink) : List Nat :=
  let roots := ranges.near link.roots.first link.roots.last
  if roots.isEmpty then []
  else (link.roots.points.filter roots.contains).map (· + link.offset)

def folded (ranges : Ranges) : Ranges :=
  let roots := ofList (singles (Unicode.caseLinks.flatMap ranges.rootsOf))
  ofList (ranges ++ roots ++ singles (Unicode.caseLinks.flatMap roots.imagesOf))

def scalars (ranges : Ranges) : Ranges :=
  ranges.flatMap fun (first, last) =>
    (if first < 0xD800 then [(first, min last 0xD7FF)] else []) ++
      (if 0xDFFF < last then [(max first 0xE000, last)] else [])

end Ranges

def Charset.ranges : Charset → Ranges
  | range first last => if first ≤ last then [(first, last)] else []
  | table stretches => .ofList (stretches.flatMap Unicode.Stretch.ranges)
  | union a b => .ofList (a.ranges ++ b.ranges)
  | inter a b => (Ranges.ofList (a.ranges.compl ++ b.ranges.compl)).compl
  | compl a => a.ranges.compl

def Charset.folded (a : Charset) : Charset :=
  .table (a.ranges.folded.map fun (first, last) => ⟨first, last, 1⟩)

example : Ranges.push (1, 3) [(4, 5), (7, 8)] = [(1, 5), (7, 8)] := by decide

example : Ranges.compl [(0, 0x60), (0x65, 0x65)] = [(0x61, 0x64), (0x66, 0x10FFFF)] := by decide

example : Ranges.rootsOf [(0x212A, 0x212A)] ⟨⟨0x4B, 0x4B, 1⟩, 0x20DF⟩ = [0x4B] := by decide

example : Ranges.imagesOf [(0x4B, 0x4B)] ⟨⟨0x41, 0x5A, 1⟩, 0x20⟩ = [0x6B] := by decide

end RecordRules
