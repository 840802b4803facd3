import ApiClient.Text.Line
import ApiClient.Text.Split

/-! Doc comments. The text follows a tag, line by line, and further tags stand after it. A comment
terminator inside the text loses its meaning by a backslash between its characters. -/

namespace ApiClient

namespace Comment

def neutralized (text : Text) : Text :=
  Text.replaceAll (.char '*') "/" "*\\/" text

/-- The lines of a text without their breaks; the empty text has one empty line. -/
def contents (text : Text) : List Text :=
  match Text.Line.listOf text with
  | [] => [[]]
  | lines => lines.map (·.content)

def opening : Text := "/**"

/-- What every line of the body starts with. -/
def lead : Text := " * "

def closing : Text := " */"

def bodyLine (text : Text) : Text :=
  Text.trimEnd (·.isIn Text.isBlank) (lead ++ text)

def body (tag : Text) (text : Text) : List Text :=
  match contents (neutralized text) with
  | [] => []
  | first :: rest => bodyLine (tag ++ " " ++ first) :: rest.map bodyLine

end Comment

def docComment (text : Option Text) (tag : Text) (further : List Text) : Text :=
  let body := (text.map (Comment.body tag)).getD []
  lines ([Comment.opening] ++ body ++ further.map (Comment.lead ++ ·) ++ [Comment.closing])

/-- The tag that introduces a description. -/
def descriptionTag : Text := "@description"

end ApiClient
