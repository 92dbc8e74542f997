import TagQuery.CommandLine.Help
import TagQuery.CommandLine.Options
import TagQuery.Query.Display
import TagQuery.Query.Search
import TagQuery.Report
import TagQuery.Request
import TagQuery.Settings

/-!
# The command line

The program reads a store from a file and carries out one command: it lists the
records that match a query, classifies them, counts them by date, or checks the
match texts of the query.
-/

namespace TagQuery.CommandLine

/-! ## Commands -/

/-- What the options about a query have given so far. -/
structure QueryOptions where
  categories : TextTable := ∅
  label : Option String := none
  description : Option String := none
  rating : Option UInt8 := none
  ratingMode : Option RatingMode := none
  raw : Bool := false
  pattern : Option String := none
  freeform : Option String := none

def QueryOptions.request (o : QueryOptions) : SearchRequest :=
  { categories := o.categories
    label := o.label.getD ""
    description := o.description.getD ""
    rating := o.rating
    ratingMode := o.ratingMode.getD .exact
    rawOnly := o.raw
    fileNamePattern := o.pattern
    freeform := o.freeform }

/-- What the arguments of a command have given so far. -/
structure Given where
  query : QueryOptions := {}
  category : Option String := none
  media : Option MediaMask := none
  stopEarly : Bool := false
  windows : List DateRange := []

/-- A command with all it needs. -/
inductive Command where
  | list (request : SearchRequest)
  | classify (request : SearchRequest) (category : String) (media : MediaMask)
      (stopEarly : Bool)
  /-- Counts records by windows; without a window, by one over all of them. -/
  | dates (request : SearchRequest) (windows : List DateRange)
  | check (request : SearchRequest)

structure Invocation where
  store : String
  command : Command

/-! ## Values of options -/

/-- A category and its match text, with an equals sign between them. -/
def readCategory? (text : String) : Option (String × String) :=
  (Text.cutFirst? ['='] text.toList).map fun (category, matchText) =>
    (String.ofList (Text.trim category), String.ofList matchText)

/-- A whole number, which may have a sign. -/
def readInt? (text : String) : Option Int :=
  let (negative, digits) :=
    match text.toList with
    | '-' :: rest => (true, rest)
    | '+' :: rest => (false, rest)
    | all => (false, all)
  if digits.isEmpty || !digits.all Char.isDigit then none
  else
    let size := Decimal.ofDigits digits
    some (if negative then -size else size)

def readRating? (text : String) : Option UInt8 :=
  ((readInt? text).filter fun n => 0 ≤ n && n < 256).map fun n => UInt8.ofNat n.toNat

def readRatingMode? (text : String) : Option RatingMode :=
  [("exact", .exact), ("at-least", .atLeast), ("less-than", .lessThan),
    ("not-equal", .notEqual)].lookup text

/-- The kinds of files that are wanted. -/
def readMedia? (text : String) : Option MediaMask :=
  [("image", .images), ("video", .videos), ("any", .any)].lookup text

/-- Two days with two points between them. -/
def readWindow? (text : String) : Option DateRange := do
  let (first, last) ← Text.cutFirst? ['.', '.'] text.toList
  return .between (← Timestamp.readDay? (String.ofList first))
    (← Timestamp.readDay? (String.ofList last))

/-! ## Options -/

open CommandOption

/-- The options that every command about a query has. -/
def queryOptions : List (CommandOption Given) :=
  [(repeated "category" readCategory? fun given (category, text) =>
      { given with query.categories := given.query.categories.insert category text }).shortened
        'c',
    single "label" some (·.query.label) fun given x =>
      { given with query.label := some x },
    single "description" some (·.query.description) fun given x =>
      { given with query.description := some x },
    single "rating" readRating? (·.query.rating) fun given x =>
      { given with query.rating := some x },
    single "rating-mode" readRatingMode? (·.query.ratingMode) fun given x =>
      { given with query.ratingMode := some x },
    flag "raw" (·.query.raw) fun given => { given with query.raw := true },
    single "pattern" some (·.query.pattern) fun given x =>
      { given with query.pattern := some x },
    single "freeform" some (·.query.freeform) fun given x =>
      { given with query.freeform := some x },
    helpOption]

def classifyOptions : List (CommandOption Given) :=
  [single "media" readMedia? (·.media) fun given x => { given with media := some x },
    flag "partial" (·.stopEarly) fun given => { given with stopEarly := true }]

def datesOptions : List (CommandOption Given) :=
  [(repeated "window" readWindow? fun given x =>
      { given with windows := given.windows ++ [x] }).shortened 'w']

/-- The options before the command. -/
def programOptions : List (CommandOption (Option String)) :=
  [(single "store" some id fun _ x => some x).shortened 's', helpOption]

def noOperand (_ : String) (_ : Given) : Option Given :=
  none

/-- One operand is taken, the category. -/
def categoryOperand (text : String) (given : Given) : Option Given :=
  setOnce (·.category) (fun given x => { given with category := some x }) text given

/-! ## Arguments -/

/-- Why there is nothing to carry out. -/
inductive Refusal where
  | misuse
  | help (topic : Topic)
  deriving DecidableEq, Repr

/-- What stops the arguments about a topic. -/
def Stop.refusal (topic : Topic) : Stop → Refusal
  | .misuse => .misuse
  | .help => .help topic

def topicOf? (name : String) : Option Topic :=
  [("match", .matching), ("classify", .classifying), ("dates", .dating), ("check", .checking),
    ("help", .helping)].lookup name

/-- The topic of the arguments after `help`. -/
def helpTopic? : List String → Option Topic
  | [] => some .program
  | [name] => topicOf? name
  | _ => none

def readCommand (topic : Topic) (args : List String) : Except Refusal Command :=
  let take (more : List (CommandOption Given)) (operand : String → Given → Option Given) :
      Except Refusal Given :=
    (takeAll (queryOptions ++ more) operand (.given {}) args).mapError (·.refusal topic)
  match topic with
  | .matching => do return .list (← take [] noOperand).query.request
  | .classifying => do
    let given ← take classifyOptions categoryOperand
    match given.category with
    | some category =>
      return .classify given.query.request category (given.media.getD .any) given.stopEarly
    | none => throw .misuse
  | .dating => do
    let given ← take datesOptions noOperand
    return .dates given.query.request given.windows
  | .checking => do return .check (← take [] noOperand).query.request
  | .helping =>
    match helpTopic? args with
    | some topic => throw (.help topic)
    | none => throw .misuse
  | .program => throw .misuse

/-- The command that the arguments ask for; the options of the program stand before it. -/
def Invocation.ofArgsFrom : Progress (Option String) → List String → Except Refusal Invocation
  | _, [] => .error .misuse
  | progress, arg :: rest => do
    match progress, Argument.ofString arg with
    | .given store, .operand name =>
      match topicOf? name with
      | none => throw .misuse
      | some topic =>
        let command ← readCommand topic rest
        match store with
        | some store => return ⟨store, command⟩
        | none => throw .misuse
    | progress, argument =>
      let progress ← (takeArgument programOptions (fun _ _ => none) progress argument).mapError
        (·.refusal .program)
      ofArgsFrom progress rest

/-- The command that the arguments ask for. -/
def Invocation.ofArgs (args : List String) : Except Refusal Invocation :=
  ofArgsFrom (.given none) args

/-! ## Results -/

/-- What the program leaves behind: its exit code, and what it prints. -/
structure Outcome where
  exitCode : UInt8
  output : String
  deriving DecidableEq, Repr

namespace Outcome

def printed (output : String) : Outcome :=
  ⟨0, output ++ "\n"⟩

def failed : Outcome :=
  ⟨1, ""⟩

end Outcome

/-- Nothing is carried out, but help may be printed. -/
def Refusal.outcome : Refusal → Outcome
  | .misuse => ⟨2, ""⟩
  | .help topic => ⟨0, (Page.ofTopic topic).text⟩

/-- The names of the files of the records that match. -/
def listing (q : SearchQuery) (store : RecordStore) (stamp : Nat) : Json :=
  .arr ((q.search store stamp).1.map fun record => .str record.fileName)

/-- The counts of windows, each after its window. -/
def dateReport (index : DateIndex) (windows : List DateRange) : Json :=
  let windows := if windows.isEmpty then [index.fullWindow] else windows
  .arr ((windows.zip (index.countAll windows).1).map fun (window, count) =>
    .arr [window.toJson, count.toJson])

/-- Carries out a command on a store; stamps are drawn from the given one on. -/
def Command.run (command : Command) (settings : Settings) (store : RecordStore) (stamp : Nat) :
    Outcome :=
  let withQuery (request : SearchRequest) (answer : SearchQuery → Nat → String) : Outcome :=
    match request.build store.generations with
    | (.ok q, drawn) => .printed (answer q drawn)
    | (.error _, _) => .failed
  match command with
  | .list request => withQuery request fun q _ => (listing q store stamp).spread
  | .classify request category media stopEarly =>
    withQuery request fun q drawn =>
      let job : Classifier :=
        { category, media, stopEarly := stopEarly || settings.partialCount }
      (Buckets.toJson (job.run q store (drawn + 1) stamp store.entries
        (List.range store.entries.length)).1).spread
  | .dates request windows =>
    withQuery request fun q _ =>
      let (index, _) := q.dateIndex store stamp settings.dateCacheCapacity
      (dateReport index windows).spread
  | .check request =>
    if request.flaw?.isSome then .failed
    else withQuery request fun q _ => "✅ " ++ q.describe .english

/-- Carries out what was asked for, with the text of the file if it can be read. -/
def Invocation.run (invocation : Invocation) (settings : Settings) (text : Option String) :
    Outcome :=
  match text.map Fixture.ofJson with
  | some (.ok fixture) =>
    let store := fixture.store 1
    invocation.command.run settings store store.nextStamp
  | _ => .failed

/-- What the program does with arguments, given the texts of files. -/
def run (settings : Settings) (file : String → Option String) (args : List String) : Outcome :=
  match Invocation.ofArgs args with
  | .error refusal => refusal.outcome
  | .ok invocation => invocation.run settings (file invocation.store)

end TagQuery.CommandLine
