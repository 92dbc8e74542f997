/-!
# Help

What the program tells about itself when it is asked to.
-/

namespace TagQuery.CommandLine

/-- What help can be asked about. -/
inductive Topic where
  | program
  | matching
  | classifying
  | dating
  | checking
  | helping
  deriving DecidableEq, Repr

/-- A page of help. -/
structure Page where
  /-- What it is about, in a line. -/
  about : String
  /-- What follows the name of the program. -/
  usage : String
  /-- Titles of tables, and rows of a term and its meaning. -/
  tables : List (String × List (String × String))

namespace Page

/-- The rows of a table, with the meanings one below the other. -/
def tableText (rows : List (String × String)) : String :=
  let width := (rows.map (·.1.length)).foldl max 0
  String.join (rows.map fun (term, meaning) =>
    "  " ++ term ++ String.ofList (List.replicate (width - term.length) ' ') ++ "  " ++
      meaning ++ "\n")

def text (page : Page) : String :=
  page.about ++ "\n\nUsage: tagsift " ++ page.usage ++ "\n" ++
    String.join (page.tables.map fun (title, rows) => "\n" ++ title ++ ":\n" ++ tableText rows)

/-- The row of the option that asks for help. -/
def helpRow : String × String :=
  ("-h, --help", "Print help")

/-- The rows of the options that every command about a query has. -/
def queryRows : List (String × String) :=
  [("-c, --category <CATEGORIES>",
      "Match text as CATEGORY=TEXT, e.g. 'People=Jesper & !Jim'"),
    ("    --label <LABEL>", ""),
    ("    --description <DESCRIPTION>", "Words that must all appear in the description"),
    ("    --rating <RATING>", ""),
    ("    --rating-mode <RATING_MODE>",
      "[default: exact] [possible values: exact, at-least, less-than, not-equal]"),
    ("    --raw", "Only RAW files"),
    ("    --pattern <PATTERN>", "Regex on the file name"),
    ("    --freeform <FREEFORM>", "Case-insensitive text searched everywhere")]

/-- What the page of a topic begins with; the program's page lists it. -/
def aboutTopic : Topic → String
  | .program => "Tag query engine over a JSON photo record fixture"
  | .matching => "List the records matched by a query"
  | .classifying => "Count each value of a category among the matched records"
  | .dating => "Count matched records per date window"
  | .checking => "Report suspicious match text"
  | .helping => "Print this message or the help of the given subcommand(s)"

def ofTopic (topic : Topic) : Page :=
  let about := aboutTopic topic
  match topic with
  | .program =>
    ⟨about, "--store <STORE> <COMMAND>",
      [("Commands",
          [("match", aboutTopic .matching), ("classify", aboutTopic .classifying),
            ("dates", aboutTopic .dating), ("check", aboutTopic .checking),
            ("help", aboutTopic .helping)]),
        ("Options",
          [("-s, --store <STORE>", "Path to the JSON record fixture"), helpRow])]⟩
  | .matching =>
    ⟨about, "--store <STORE> match [OPTIONS]", [("Options", queryRows ++ [helpRow])]⟩
  | .classifying =>
    ⟨about, "--store <STORE> classify [OPTIONS] <CATEGORY>",
      [("Arguments", [("<CATEGORY>", "Category to classify")]),
        ("Options",
          queryRows ++
            [("    --media <MEDIA>", "[default: any] [possible values: image, video, any]"),
              ("    --partial", "Stop once a second value shows up"), helpRow])]⟩
  | .dating =>
    ⟨about, "--store <STORE> dates [OPTIONS]",
      [("Options",
          queryRows ++
            [("-w, --window <WINDOWS>",
                "Window as FROM..TO (YYYY-MM-DD); defaults to the full range"), helpRow])]⟩
  | .checking =>
    ⟨about, "--store <STORE> check [OPTIONS]", [("Options", queryRows ++ [helpRow])]⟩
  | .helping =>
    ⟨about, "--store <STORE> help [COMMAND]...",
      [("Arguments", [("[COMMAND]...", "Print help for the subcommand(s)")])]⟩

end Page

end TagQuery.CommandLine
