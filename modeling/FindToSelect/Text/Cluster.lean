import FindToSelect.Text.ClusterClass

/-!
# Grapheme clusters

A text falls into extended grapheme clusters, the characters as a reader counts them. The rules say
where a cluster goes on, and everywhere else it ends:

* a carriage return goes on with a line feed, and no other control goes with anything;
* Korean letters go on to form one syllable;
* extending characters, joiners and spacing marks belong to what stands before them, and what stands
  behind a prepended character belongs to it;
* a consonant belongs to a consonant before it if a linker stands between them;
* a pictograph belongs to a pictograph before it if a joiner stands between them;
* of the letters for flags, the second of a pair belongs to the first.

The last three look further back than one character. `Tail` is all that a cluster has to remember
for them, `Tail.joins` is the rules, and `clusters` cuts a text.
-/

namespace FindToSelect.Text

/-- **What the end of a cluster says about pictographs.** -/
inductive PictographTail where
  | none
  /-- A pictograph, with extending characters only behind it. -/
  | pictograph
  /-- Such an end and a joiner. -/
  | joined
deriving DecidableEq

/-- **What the end of a cluster says about consonants.** -/
inductive ConsonantTail where
  | none
  /-- A consonant, with extending characters only behind it. -/
  | consonant
  /-- Such an end with a linker in it. -/
  | linked
deriving DecidableEq

/-- **What a cluster remembers of its end**: the class of its last character, the pictograph or the
consonant before the characters that extend it, and whether it ends in an odd number of letters for
flags. -/
structure Tail where
  last : ClusterClass
  pictograph : PictographTail
  consonant : ConsonantTail
  oddRegional : Bool
deriving DecidableEq

namespace ClusterClass

/-- Whether the class is one of the controls. -/
def isControl : ClusterClass → Bool
  | carriageReturn | lineFeed | control => true
  | _ => false

end ClusterClass

namespace Tail

/-- The memory before the first character. -/
def empty : Tail :=
  ⟨.other, .none, .none, false⟩

/-- **Whether a cluster goes on with a character of the class `next`.** -/
def joins (t : Tail) (next : ClusterClass) : Bool :=
  if t.last = .carriageReturn ∧ next = .lineFeed then true
  else if t.last.isControl || next.isControl then false
  else
    match t.last, next with
    | .leading, .leading | .leading, .vowel => true
    | .leading, .openSyllable | .leading, .closedSyllable => true
    | .openSyllable, .vowel | .openSyllable, .trailing => true
    | .vowel, .vowel | .vowel, .trailing => true
    | .closedSyllable, .trailing | .trailing, .trailing => true
    | _, .extend | _, .joiner | _, .spacing => true
    | .prepend, _ => true
    | _, .consonant => t.consonant = .linked
    | .joiner, .pictographic => t.pictograph = .joined
    | .regional, .regional => t.oddRegional
    | _, _ => false

/-- The memory of pictographs behind a character of the class `next`. -/
def nextPictograph (t : Tail) (next : ClusterClass) : PictographTail :=
  match next, t.pictograph with
  | .pictographic, _ => .pictograph
  | .extend, .pictograph => .pictograph
  | .joiner, .pictograph => .joined
  | _, _ => .none

/-- The memory of consonants behind the character `c`. -/
def nextConsonant (t : Tail) (c : Char) : ConsonantTail :=
  match ClusterClass.of c with
  | .consonant => .consonant
  | .joiner => t.consonant
  | .extend =>
    if c = zeroWidthNonJoiner then .none
    else if isConjunctLinker c && t.consonant != .none then .linked
    else t.consonant
  | _ => .none

/-- **The memory behind the character `c`.** -/
def push (t : Tail) (c : Char) : Tail :=
  let next := ClusterClass.of c
  ⟨next, t.nextPictograph next, t.nextConsonant c,
    next == .regional && !(t.last == .regional && t.oddRegional)⟩

end Tail

/-- The clusters of a text, the first of which has begun with the characters of `begun`, last one
first. -/
def clustersFrom (t : Tail) (begun : List Char) : List Char → List (List Char)
  | [] => [begun.reverse]
  | c :: cs =>
    if t.joins (ClusterClass.of c) then clustersFrom (t.push c) (c :: begun) cs
    else begun.reverse :: clustersFrom (Tail.empty.push c) [c] cs

/-- **The grapheme clusters of a text.** -/
def clusters : List Char → List (List Char)
  | [] => []
  | c :: cs => clustersFrom (Tail.empty.push c) [c] cs

/-- The clusters that go on from a beginning make up the beginning and the rest. -/
theorem flatten_clustersFrom (t : Tail) (begun cs : List Char) :
    (clustersFrom t begun cs).flatten = begun.reverse ++ cs := by
  induction cs generalizing t begun with
  | nil => simp [clustersFrom]
  | cons c cs ih =>
    unfold clustersFrom
    split
    · simp [ih]
    · simp [ih]

/-- **No character is lost or moved.** -/
theorem flatten_clusters (cs : List Char) : (clusters cs).flatten = cs := by
  cases cs with
  | nil => rfl
  | cons c cs => simp [clusters, flatten_clustersFrom]

end FindToSelect.Text
