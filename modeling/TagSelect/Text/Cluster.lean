import TagSelect.Text.BreakClass

/-!
# Clusters

A text is cut into clusters, each of which a reader takes for one character. `clusters_flatten`
says that cutting loses nothing.
-/

namespace TagSelect.Text

/-- Whether a character of class `b` goes with the character of class `a` before it, whatever
stands before that. -/
def BreakClass.joins (a b : BreakClass) : Bool :=
  match a, b with
  | .control, _ => false
  | _, .control => false
  | _, .extend => true
  | _, .joiner => true
  | _, .spacing => true
  | .prepend, _ => true
  | .leading, .leading => true
  | .leading, .vowel => true
  | .leading, .openSyllable => true
  | .leading, .closedSyllable => true
  | .openSyllable, .vowel => true
  | .openSyllable, .trailing => true
  | .vowel, .vowel => true
  | .vowel, .trailing => true
  | .closedSyllable, .trailing => true
  | .trailing, .trailing => true
  | _, _ => false

/-- Whether a cluster, in reverse, ends in a picture with marks and a joiner after it. -/
def endsInJoinedPictograph : List Char → Bool
  | [] => false
  | c :: cs =>
    breakClass c = .joiner &&
      (cs.dropWhile (breakClass · = .extend)).head?.any (breakClass · = .pictograph)

/-- Whether a cluster, in reverse, ends in half a flag. -/
def endsInHalfFlag (cluster : List Char) : Bool :=
  (cluster.takeWhile (breakClass · = .regional)).length % 2 = 1

/-- Whether a character may stand between a consonant and the sign that joins it to another. -/
def isLinkMark (c : Char) : Bool :=
  c.toNat != 0x200C && (breakClass c = .extend || breakClass c = .joiner)

/-- Whether a cluster, in reverse, ends in a consonant that is joined to the next one. -/
def endsInLink (cluster : List Char) : Bool :=
  (cluster.takeWhile isLinkMark).any isLinker &&
    (cluster.dropWhile isLinkMark).head?.any isLinkedConsonant

/-- Whether a character goes on with a cluster, which is given in reverse. A carriage return takes
a line feed with it. -/
def extendsCluster (cluster : List Char) (c : Char) : Bool :=
  match cluster with
  | [] => true
  | last :: _ =>
    (last = '\r' && c = '\n') || (breakClass last).joins (breakClass c) ||
      (breakClass c = .pictograph && endsInJoinedPictograph cluster) ||
      (breakClass c = .regional && endsInHalfFlag cluster) ||
      (isLinkedConsonant c && endsInLink cluster)

/-- Cuts characters into clusters. `cluster` is the cluster under way, in reverse. -/
def clustersFrom : List Char → List Char → List (List Char)
  | [], cluster => if cluster.isEmpty then [] else [cluster.reverse]
  | c :: cs, cluster =>
    if extendsCluster cluster c then clustersFrom cs (c :: cluster)
    else cluster.reverse :: clustersFrom cs [c]

/-- The clusters of a text. -/
def clusters (cs : List Char) : List (List Char) :=
  clustersFrom cs []

theorem clustersFrom_flatten (cs cluster : List Char) :
    (clustersFrom cs cluster).flatten = cluster.reverse ++ cs := by
  induction cs generalizing cluster with
  | nil =>
    rw [clustersFrom]
    split
    · next h => simp [List.isEmpty_iff.1 h]
    · simp
  | cons c cs ih =>
    rw [clustersFrom]
    split
    · simp [ih]
    · simp [ih]

/-- Put together, the clusters of a text are the text. -/
theorem clusters_flatten (cs : List Char) : (clusters cs).flatten = cs := by
  simp [clusters, clustersFrom_flatten]

end TagSelect.Text
