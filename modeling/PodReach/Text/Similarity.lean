/-!
# Similar words

How alike two words are: find the longest run of characters that they share, go on to the left
and to the right of it, and count the characters of all runs found. The similarity is twice that
count over the length of both words.
-/

namespace PodReach.Text

/-- The length of the longest common start of two lists. -/
def commonStart : List Char → List Char → Nat
  | a :: as, b :: bs => if a == b then commonStart as bs + 1 else 0
  | _, _ => 0

/-- A run shared by two words: its place in each of them and its length. -/
structure SharedRun where
  left : Nat
  right : Nat
  length : Nat
  deriving DecidableEq, Repr, Inhabited

/-- The better of two shared runs: the longer one, and of equally long ones the first. -/
def longer (best candidate : SharedRun) : SharedRun :=
  if best.length < candidate.length then candidate else best

/-- The longest shared run of two words, the earliest in the first word and then in the second. -/
def longestShared (as bs : List Char) : SharedRun :=
  (List.range as.length).foldl (fun best i =>
    (List.range bs.length).foldl (fun best j =>
      longer best ⟨i, j, commonStart (as.drop i) (bs.drop j)⟩) best) ⟨0, 0, 0⟩

/-- The number of characters in the shared runs of two words. Every run takes at least one
character of the first word, which bounds the depth. -/
def sharedCount : Nat → List Char → List Char → Nat
  | 0, _, _ => 0
  | depth + 1, as, bs =>
    let run := longestShared as bs
    if run.length == 0 then 0
    else
      sharedCount depth (as.take run.left) (bs.take run.right) + run.length
        + sharedCount depth (as.drop (run.left + run.length)) (bs.drop (run.right + run.length))

/-- How alike two words are, between zero and one. -/
def similarity (a b : String) : Rat :=
  if a.length + b.length == 0 then 1
  else
    let shared := sharedCount (a.length + 1) a.toList b.toList
    mkRat (2 * shared) (a.length + b.length)

/-- The words that are at least three fifths alike to a word, the three best ones in the order
of the alphabet. -/
def similarWords (word : String) (known : List String) : List String :=
  let rated := (known.map fun k => (similarity k word, k)).filter fun (r, _) => mkRat 3 5 ≤ r
  let best := (rated.mergeSort fun x y => y.1 < x.1 || (x.1 == y.1 && y.2 ≤ x.2)).take 3
  (best.map (·.2)).mergeSort fun x y => x ≤ y

end PodReach.Text
