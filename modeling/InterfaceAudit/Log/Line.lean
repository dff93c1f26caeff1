import InterfaceAudit.Log.Event

/-!
Contract: events as lines of text.

Owns:
- the plain line, with spans, message and fields;
- the JSON line.

Does not own: time stamps, or which events are shown.
-/

namespace InterfaceAudit.Log

namespace Line

/-- A field behind a message or inside a span. -/
def field (entry : String × FieldValue) : String :=
  entry.1 ++ "=" ++ entry.2.shown

/-- A span in front of a message. -/
def span (span : Span) : String :=
  let fields := Text.joinWith " " (span.fields.map field)
  span.name ++ (if fields.isEmpty then "" else "\x7b" ++ fields ++ "\x7d") ++ ":"

/-- A character of a message. Those that could steer a terminal are shown by
their number. -/
def messageChar (c : Char) : List Char :=
  match c with
  | '\x1b' => ['\\', 'x', '1', 'b']
  | '\x07' => ['\\', 'x', '0', '7']
  | '\x08' => ['\\', 'x', '0', '8']
  | '\x0c' => ['\\', 'x', '0', 'c']
  | '\x7f' => ['\\', 'x', '7', 'f']
  | c => if 0x80 ≤ c.toNat && c.toNat ≤ 0x9F then Literal.codePointEscape c else [c]

/-- A message without characters that could steer a terminal. -/
def message (text : String) : String :=
  String.ofList (text.toList.flatMap messageChar)

/-- An event as a plain line: level, spans, message and fields. -/
def plain (event : Event) : String :=
  let spans := String.join (event.spans.map span)
  let front := if spans.isEmpty then "" else spans ++ " "
  Text.joinWith " "
    ((event.level.label ++ " " ++ front ++ message event.message) :: event.fields.map field)

def members (fields : Fields) : List (String × Json.Value) :=
  fields.map fun entry => (entry.1, entry.2.toJson)

/-- A span as a JSON object: its fields and its name. -/
def spanJson (span : Span) : Json.Value :=
  .object (members span.fields ++ [("name", .string span.name)])

/-- An event as a JSON object: level, fields, and the spans if there are any,
the innermost one apart. -/
def json (event : Event) : Json.Value :=
  let spans :=
    match event.spans.getLast? with
    | none => []
    | some innermost => [
        ("span", spanJson innermost),
        ("spans", .list (event.spans.map spanJson))]
  .object ([
    ("level", .string event.level.label),
    ("fields", .object (("message", .string event.message) :: members event.fields))] ++ spans)

end Line

end InterfaceAudit.Log
