import TagSelect.Text.Cluster
import TagSelect.Text.Lines
import TagSelect.Text.Offset
import TagSelect.Text.Words

/-!
# Input lines

In a line of input, a backspace takes away the cluster before it, which is what a reader takes for
the character there. The size of a cluster is kept in one byte, so of a cluster of 256 bytes or
more only the remainder modulo 256 is taken away, from its end. If that cuts a character in two,
the line cannot be read.

`erase?_eq_self` says that a line without backspaces is read as it is.
-/

namespace TagSelect.Shell

open Text

/-- A line while it is typed. -/
structure Typed where
  /-- The characters of the line, in reverse. -/
  chars : List Char
  /-- The numbers of bytes that backspaces will take away, in their order. -/
  sizes : List UInt8
deriving DecidableEq, Repr

namespace Typed

/-- A line with nothing in it. -/
def empty : Typed := ⟨[], []⟩

/-- The line after a cluster. -/
def push (t : Typed) (cluster : List Char) : Typed :=
  ⟨cluster.reverse ++ t.chars, (byteLength cluster).toUInt8 :: t.sizes⟩

/-- The line after a backspace. There is none if a character is cut in two. -/
def backspace? (t : Typed) : Option Typed :=
  match t.sizes with
  | [] => some t
  | size :: sizes => (splitAtByte? t.chars size.toNat).map fun (_, chars) => ⟨chars, sizes⟩

/-- The line after a cluster, which may be a backspace. -/
def type? (t : Typed) (cluster : List Char) : Option Typed :=
  if cluster = ['\x08'] then t.backspace? else some (t.push cluster)

end Typed

/-- What is left of a line after its backspaces. -/
def erase? (line : List Char) : Option (List Char) :=
  ((clusters line).foldlM Typed.type? .empty).map (·.chars.reverse)

theorem Typed.chars_foldlM_type? {clusters : List (List Char)} (h : ['\x08'] ∉ clusters)
    (t : Typed) :
    (clusters.foldlM type? t).map (·.chars) = some (clusters.flatten.reverse ++ t.chars) := by
  induction clusters generalizing t with
  | nil => simp
  | cons c cs ih =>
    obtain ⟨hc, hcs⟩ := not_or.1 (mt List.mem_cons.2 h)
    have hc' : t.type? c = some (t.push c) := if_neg (Ne.symm hc)
    simp [hc', ih hcs, push]

/-- A line without backspaces is left as it is. -/
theorem erase?_eq_self {line : List Char} (h : '\x08' ∉ line) : erase? line = some line := by
  have hc : ['\x08'] ∉ clusters line := fun hm => h <| by
    rw [← clusters_flatten line]
    exact List.mem_flatten_of_mem hm List.mem_cons_self
  have := congrArg (Option.map List.reverse) (Typed.chars_foldlM_type? hc .empty)
  simpa [erase?, Typed.empty, clusters_flatten, Function.comp_def] using this

end TagSelect.Shell
