import TagSelect.Filter
import TagSelect.Text.Quoted

/-!
# The outline of a filter

A filter as a tree on several lines, with the parts of a node four spaces further in than the
node.
-/

namespace TagSelect

/-- The spaces before a line at a level. -/
def indentation (level : Nat) : String :=
  String.ofList (List.replicate (4 * level) ' ')

/-- A node with lines inside brackets: the opening and the closing one on lines of their own, and
each part followed by a comma. -/
def outlineNode (level : Nat) (opening closing : String) (parts : List String) : String :=
  opening ++ "\n" ++
    String.join (parts.map fun part => indentation (level + 1) ++ part ++ ",\n") ++
    indentation level ++ closing

/-- A part with a name. -/
def outlineField (name value : String) : String :=
  name ++ ": " ++ Text.quoted value

/-- The outline of a tag name at a level. -/
def TagName.outline (level : Nat) : TagName → String
  | .plain key =>
    outlineNode level "Tag(" ")"
      [outlineNode (level + 1) "Tag \x7b" "\x7d" [outlineField "key" key]]
  | .valued key value =>
    outlineNode level "Meta(" ")"
      [outlineNode (level + 1) "MetaTag \x7b" "\x7d"
        [outlineField "key" key, outlineField "value" value]]

/-- The outline of a filter at a level. -/
def Filter.outlineAt (level : Nat) : Filter → String
  | .everything => "True"
  | .tag name => name.outline level
  | .not x => outlineNode level "Not(" ")" [x.outlineAt (level + 1)]
  | .and l r => outlineNode level "And(" ")" [l.outlineAt (level + 1), r.outlineAt (level + 1)]
  | .or l r => outlineNode level "Or(" ")" [l.outlineAt (level + 1), r.outlineAt (level + 1)]

/-- The outline of a filter. -/
def Filter.outline (f : Filter) : String :=
  f.outlineAt 0

end TagSelect
