import Handoff.Code.Builder
import Handoff.Page.Mount
import Handoff.Page.Static
import Handoff.Text.Escape

/-!
Pages of a site: a script between two fences that imports what the page mounts and names its title
and description, and a document whose body shows a design, either through mounted components or as
plain markup.
-/
namespace Handoff.Page

/-- What may not stand for itself between the quotes of a literal. -/
def literalEscapes : Text.EscapeTable :=
  [('\\', "\\\\"), ('"', "\\\""), ('\n', "\\n"), ('\r', "\\r"), ('\t', "\\t"),
   ('\u2028', "\\u2028"), ('\u2029', "\\u2029")]

/-- Text as a double-quoted literal of a script, always on one line. -/
def literal (s : String) : String := "\"" ++ Text.escape literalEscapes s ++ "\""

def fence : String := "---"

/-- The site's stylesheet, seen from the page. -/
def stylesheetImport : String := "import '../styles/global.css';"

def scriptLines (mounts : List Mount) (title description : String) : List String :=
  [fence, stylesheetImport] ++ mounts.map Mount.importLine
    ++ ["", "const title = " ++ literal title ++ ";",
      "const description = " ++ literal description ++ ";", fence]

def headLines : List String :=
  ["<meta charset=\"UTF-8\" />",
   "<meta name=\"viewport\" content=\"width=device-width, initial-scale=1.0\" />",
   "<meta name=\"description\" content=\x7bdescription\x7d />",
   "<title>\x7btitle\x7d</title>",
   "<link rel=\"icon\" type=\"image/svg+xml\" href=\"/favicon.svg\" />"]

/-- The body has the background of the design, or else that of the site. -/
def bodyClasses (layer : Layer) : Classes.ClassList :=
  let background := Classes.fillClasses layer.fills none
  .ofList (["antialiased"] ++ (if background.isEmpty then ["bg-background"] else background)
    ++ ["text-foreground"])

def centeringClasses : List String := ["mx-auto", "max-w-7xl", "px-4", "sm:px-6", "lg:px-8"]

def contentLevel : Nat := 3

/-- Mounted components in a container laid out like the design. -/
def mountedContent (root : Node) (mounts : List Mount) : String :=
  let classes := Classes.ClassList.ofList (Classes.containerClasses root ++ centeringClasses)
  ((CodeBuilder.atLevel contentLevel).line ("<div class=\"" ++ classes.text ++ "\">")).indent
    |>.lines (mounts.map Mount.element) |>.dedent |>.line "</div>" |>.trimmed

def plainContent (root : Node) : String :=
  (plainStyle contentLevel).print (plainMarkup root.withoutDecoration)

def content (root : Node) (mounts : List Mount) : String :=
  if mounts.isEmpty then plainContent root else mountedContent root mounts

def opening (root : Node) (mounts : List Mount) (title description : String) : CodeBuilder :=
  ((CodeBuilder.empty.lines (scriptLines mounts title description)).blank
    |>.lines ["<!doctype html>", "<html lang=\"en\">"] |>.indent
    |>.line "<head>" |>.indent |>.lines headLines |>.dedent |>.line "</head>"
    |>.line ("<body class=\"" ++ (bodyClasses root.value).text ++ "\">") |>.indent
    |>.line "<main class=\"min-h-screen w-full\">")

/-- The page that shows a design. Without a title it is called by its own name. -/
def text (root : Node) (name : String) (mounts : List Mount) (title description : String) :
    String :=
  let title := if title.isEmpty then name else title
  ((opening root mounts title description).raw (content root mounts)).raw "\n"
    |>.line "</main>" |>.dedent |>.line "</body>" |>.dedent |>.line "</html>" |>.text

end Handoff.Page
