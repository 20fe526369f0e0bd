import MonkeyLexis.Unicode.Conjunct

/-!
# Grapheme clusters

The division of text into what a reader takes for single characters: a letter with its accents, a
syllable, a conjunct of consonants, a flag, a joined pictograph. Whether a character continues a
cluster depends only on the characters that the cluster has so far.
-/

namespace MonkeyLexis.Text

open Unicode (ClusterClass clusterClass)

/-- Whether a character of this class stands alone. -/
def isBarrier : ClusterClass → Bool
  | .carriageReturn | .lineFeed | .control => true
  | _ => false

/-- Whether a character of this class continues any cluster that is not a barrier. -/
def isAttached : ClusterClass → Bool
  | .extending | .joiner | .spacingMark => true
  | _ => false

/-- Whether the second of two parts of a Hangul syllable continues the first. -/
def continuesSyllable : ClusterClass → ClusterClass → Bool
  | .hangulLead, .hangulLead | .hangulLead, .hangulVowel => true
  | .hangulLead, .hangulOpenSyllable | .hangulLead, .hangulClosedSyllable => true
  | .hangulOpenSyllable, .hangulVowel | .hangulOpenSyllable, .hangulTail => true
  | .hangulVowel, .hangulVowel | .hangulVowel, .hangulTail => true
  | .hangulClosedSyllable, .hangulTail | .hangulTail, .hangulTail => true
  | _, _ => false

/-- Whether characters, the nearest first, are a pictograph with what extends it. -/
def followsPictograph (characters : List Char) : Bool :=
  match characters.dropWhile fun character => clusterClass character = .extending with
  | [] => false
  | character :: _ => clusterClass character = .pictograph

/-- Whether an even number of regional indicators stands at the head of `characters`. -/
def followsWholeFlags (characters : List Char) : Bool :=
  (characters.takeWhile fun character => clusterClass character = .regionalIndicator).length % 2 = 0

/-- Whether characters, the nearest first, end in a consonant and a linker that joins the next
consonant to it, with or without other marks around the linker. -/
def followsLinkedConsonant (characters : List Char) : Bool :=
  let marks := characters.takeWhile Unicode.isWithinConjunct
  match characters.dropWhile Unicode.isWithinConjunct with
  | [] => false
  | character :: _ => Unicode.isConjunctConsonant character && marks.any Unicode.isConjunctLinker

/-- Whether `next` continues the cluster that ends in `last` and has the characters `earlier` before
it, the nearest first. -/
def continuesCluster (earlier : List Char) (last next : Char) : Bool :=
  let left := clusterClass last
  let right := clusterClass next
  if isBarrier left || isBarrier right then
    left = .carriageReturn && right = .lineFeed
  else
    isAttached right || left = .prepended || continuesSyllable left right
      || (Unicode.isConjunctConsonant next && followsLinkedConsonant (last :: earlier))
      || (left = .joiner && right = .pictograph && followsPictograph earlier)
      || (left = .regionalIndicator && right = .regionalIndicator && followsWholeFlags earlier)

/-- The clusters of a text of which `earlier`, the nearest first, and `last` were taken into the
first cluster. -/
def clustersFrom (earlier : List Char) (last : Char) : List Char → List (List Char)
  | [] => [(last :: earlier).reverse]
  | next :: rest =>
      if continuesCluster earlier last next then
        clustersFrom (last :: earlier) next rest
      else
        (last :: earlier).reverse :: clustersFrom [] next rest

def clusters : List Char → List (List Char)
  | [] => []
  | first :: rest => clustersFrom [] first rest

theorem flatten_clustersFrom (earlier : List Char) (last : Char) (rest : List Char) :
    (clustersFrom earlier last rest).flatten = (last :: earlier).reverse ++ rest := by
  induction rest generalizing earlier last with
  | nil => simp [clustersFrom]
  | cons next rest ih =>
      unfold clustersFrom
      split <;> simp [ih]

/-- The division loses nothing. -/
@[simp]
theorem flatten_clusters (characters : List Char) : (clusters characters).flatten = characters := by
  cases characters with
  | nil => rfl
  | cons first rest => simp [clusters, flatten_clustersFrom]

end MonkeyLexis.Text
