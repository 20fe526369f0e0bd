import MonkeyLexis.Text.Cluster

/-!
# Backspaces

A backspace among the characters of a line takes back the cluster that was typed before it. The
clusters are those of the line as it was typed, so taking one back never joins its neighbours.
-/

namespace MonkeyLexis.Text

/-- The character that takes back the cluster before it. -/
def backspace : Char := '\x08'

/-- The clusters kept so far, the last one first, after one more cluster was typed. -/
def typeCluster (kept : List (List Char)) (cluster : List Char) : List (List Char) :=
  if cluster = [backspace] then kept.tail else cluster :: kept

/-- What remains of typed characters when every backspace has had its effect. -/
def applyBackspaces (characters : List Char) : List Char :=
  ((clusters characters).foldl typeCluster []).reverse.flatten

end MonkeyLexis.Text
