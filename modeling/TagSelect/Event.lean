import TagSelect.Filter.Printer
import TagSelect.SortPlan
import TagSelect.Text.Lines
import TagSelect.Text.Words

/-!
# Events

What the library reports while it works: tags that it files or ignores, sort directives that it
does not know, and filters that it compiled. An event is shown as its level, its text and its
fields; a log has the lines of its events.
-/

namespace TagSelect

/-- Something that happened. -/
inductive Event where
  /-- A tag was filed under its canonical name. -/
  | tagFiled (tag id : String)
  /-- A tag without a name was left out. -/
  | namelessTagIgnored
  /-- A list of tags was filed, and the index now holds `size` tags. -/
  | indexFilled (size : Nat)
  /-- A sort directive has a value without a meaning. -/
  | unknownSort (value : String)
  /-- A filter was compiled. -/
  | compiled (filter : Filter) (plan : SortPlan)
deriving DecidableEq, Repr

/-- The text that shows an event. -/
def Event.text : Event → String
  | tagFiled tag id => "DEBUG caching tag id tag=" ++ tag ++ " id=" ++ id
  | namelessTagIgnored => "WARN ignoring tag with an empty name"
  | indexFilled size => "DEBUG tag id cache initialized cached=" ++ toString size
  | unknownSort value => "WARN ignoring unknown sort directive value=" ++ value
  | compiled filter plan =>
    "DEBUG compiled tag filter filter=" ++ filter.text ++ " sort=" ++ plan.shown

/-- The lines of a log of events, without blanks at their ends. A name or a value with line breaks
in it makes several lines of its event. -/
def Event.log (events : List Event) : List String :=
  (Text.lines (events.flatMap fun e => e.text.toList ++ ['\n'])).map fun line =>
    String.ofList (Text.trimChars line)

end TagSelect
