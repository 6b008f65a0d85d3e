/-!
# Lines of text
-/

namespace ListQuery.Text

/-- The text of some lines, each of which is ended. -/
def ofLines (lines : List String) : String :=
  String.join (lines.map (· ++ "\n"))

end ListQuery.Text
