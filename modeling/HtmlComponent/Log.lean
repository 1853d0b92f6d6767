import HtmlComponent.Markup

/-!
# Log records

What a run reports: the size of what each stage has made, and every event as the builder takes it.
-/

namespace HtmlComponent.Log

inductive Level where
  | debug
  | trace

def Level.name : Level → String
  | .debug => "DEBUG"
  | .trace => "TRACE"

structure Record where
  level : Level
  target : String
  message : String

/-- The builder is about to take an event. -/
def eventRecord (event : Event) : Record :=
  ⟨.trace, "markup_transpiler::builder", "builder event: " ++ event.describe⟩

def eventsRecord (events : List Event) : Record :=
  ⟨.debug, "markup_transpiler::parse",
    "markup produced " ++ toString events.length ++ " parse events"⟩

def namesRecord (d : Document) : Record :=
  ⟨.debug, "markup_transpiler::parse",
    "collected " ++ toString d.elements.size ++ " element names and " ++ toString d.styles.size ++
      " style names"⟩

def bodyRecord (d : Document) : Record :=
  ⟨.debug, "markup_transpiler",
    "emitted " ++ toString (Component.Body.ofRoot d.root).utf8ByteSize ++
      " bytes of component body"⟩

/-- The records of building: one for each event, up to the first that is refused. -/
def buildRecords (b : Document.Builder) : List Event → List Record
  | [] => []
  | event :: rest =>
    eventRecord event ::
      (match b.push event with
      | .error _ => []
      | .ok b' => buildRecords b' rest)

/-- The records of compiling events, and the result. -/
def ofEvents (events : List Event) (options : Options) : List Record × Except Error String :=
  let built := buildRecords .new events
  match Document.ofEvents events with
  | .error e => (built, .error e)
  | .ok d => (built ++ [bodyRecord d], Component.compile d options)

/-- The records of compiling markup, and the result. -/
def ofMarkup (markup : String) (options : Options) : List Record × Except Error String :=
  let events := Markup.events markup
  let built := eventsRecord events :: buildRecords .new events
  match Document.ofEvents events with
  | .error e => (built, .error e)
  | .ok d => (built ++ [namesRecord d, bodyRecord d], Component.compile d options)

end HtmlComponent.Log
